import HostDialing.Domain.Mapped.Basic

/-!
# Mapped symbols

Signs made of letters and digits, from U+2000 up to the radicals: spaces, super- and subscripts,
fractions, numerals, and letters and digits in circles and brackets.
-/

namespace HostDialing

/-- Punctuation, letterlike symbols, numerals and what encloses them. -/
def mappedSymbols : MappedTexts :=
  [(0x2000, [0x20]), (0x2001, [0x20]), (0x2002, [0x20]), (0x2003, [0x20]), (0x2004, [0x20]),
    (0x2005, [0x20]), (0x2006, [0x20]), (0x2007, [0x20]), (0x2008, [0x20]), (0x2009, [0x20]),
    (0x200a, [0x20]), (0x2011, [0x2010]), (0x2017, [0x20, 0x333]), (0x202f, [0x20]),
    (0x2033, [0x2032, 0x2032]), (0x2034, [0x2032, 0x2032, 0x2032]), (0x2036, [0x2035, 0x2035]),
    (0x2037, [0x2035, 0x2035, 0x2035]), (0x203c, [0x21, 0x21]), (0x203e, [0x20, 0x305]),
    (0x2047, [0x3f, 0x3f]), (0x2048, [0x3f, 0x21]), (0x2049, [0x21, 0x3f]),
    (0x2057, [0x2032, 0x2032, 0x2032, 0x2032]), (0x205f, [0x20]), (0x2070, [0x30]),
    (0x2071, [0x69]), (0x207a, [0x2b]), (0x207b, [0x2212]), (0x207c, [0x3d]), (0x207f, [0x6e]),
    (0x208a, [0x2b]), (0x208b, [0x2212]), (0x208c, [0x3d]), (0x2090, [0x61]), (0x2091, [0x65]),
    (0x2092, [0x6f]), (0x2093, [0x78]), (0x2094, [0x259]), (0x2095, [0x68]), (0x209a, [0x70]),
    (0x20a8, [0x72, 0x73]), (0x2100, [0x61, 0x2f, 0x63]), (0x2101, [0x61, 0x2f, 0x73]),
    (0x2102, [0x63]), (0x2103, [0xb0, 0x63]), (0x2105, [0x63, 0x2f, 0x6f]),
    (0x2106, [0x63, 0x2f, 0x75]), (0x2107, [0x25b]), (0x2109, [0xb0, 0x66]), (0x210c, [0x68]),
    (0x210d, [0x68]), (0x210e, [0x68]), (0x210f, [0x127]), (0x2110, [0x69]), (0x2111, [0x69]),
    (0x2112, [0x6c]), (0x2116, [0x6e, 0x6f]), (0x211c, [0x72]), (0x211d, [0x72]),
    (0x2120, [0x73, 0x6d]), (0x2121, [0x74, 0x65, 0x6c]), (0x2122, [0x74, 0x6d]), (0x2124, [0x7a]),
    (0x2126, [0x3c9]), (0x2128, [0x7a]), (0x212a, [0x6b]), (0x212b, [0xe5]), (0x212f, [0x65]),
    (0x2132, [0x214e]), (0x2133, [0x6d]), (0x2134, [0x6f]), (0x2139, [0x69]),
    (0x213b, [0x66, 0x61, 0x78]), (0x213c, [0x3c0]), (0x213d, [0x3b3]), (0x213e, [0x3b3]),
    (0x213f, [0x3c0]), (0x2140, [0x2211]), (0x2145, [0x64]), (0x2150, [0x31, 0x2044, 0x37]),
    (0x2151, [0x31, 0x2044, 0x39]), (0x2152, [0x31, 0x2044, 0x31, 0x30]),
    (0x2153, [0x31, 0x2044, 0x33]), (0x2154, [0x32, 0x2044, 0x33]), (0x2155, [0x31, 0x2044, 0x35]),
    (0x2156, [0x32, 0x2044, 0x35]), (0x2157, [0x33, 0x2044, 0x35]), (0x2158, [0x34, 0x2044, 0x35]),
    (0x2159, [0x31, 0x2044, 0x36]), (0x215a, [0x35, 0x2044, 0x36]), (0x215b, [0x31, 0x2044, 0x38]),
    (0x215c, [0x33, 0x2044, 0x38]), (0x215d, [0x35, 0x2044, 0x38]), (0x215e, [0x37, 0x2044, 0x38]),
    (0x215f, [0x31, 0x2044]), (0x2160, [0x69]), (0x2161, [0x69, 0x69]),
    (0x2162, [0x69, 0x69, 0x69]), (0x2163, [0x69, 0x76]), (0x2164, [0x76]), (0x2165, [0x76, 0x69]),
    (0x2166, [0x76, 0x69, 0x69]), (0x2167, [0x76, 0x69, 0x69, 0x69]), (0x2168, [0x69, 0x78]),
    (0x2169, [0x78]), (0x216a, [0x78, 0x69]), (0x216b, [0x78, 0x69, 0x69]), (0x216c, [0x6c]),
    (0x216f, [0x6d]), (0x2170, [0x69]), (0x2171, [0x69, 0x69]), (0x2172, [0x69, 0x69, 0x69]),
    (0x2173, [0x69, 0x76]), (0x2174, [0x76]), (0x2175, [0x76, 0x69]), (0x2176, [0x76, 0x69, 0x69]),
    (0x2177, [0x76, 0x69, 0x69, 0x69]), (0x2178, [0x69, 0x78]), (0x2179, [0x78]),
    (0x217a, [0x78, 0x69]), (0x217b, [0x78, 0x69, 0x69]), (0x217c, [0x6c]), (0x217f, [0x6d]),
    (0x2183, [0x2184]), (0x2189, [0x30, 0x2044, 0x33]), (0x222c, [0x222b, 0x222b]),
    (0x222d, [0x222b, 0x222b, 0x222b]), (0x222f, [0x222e, 0x222e]),
    (0x2230, [0x222e, 0x222e, 0x222e]), (0x2469, [0x31, 0x30]), (0x246a, [0x31, 0x31]),
    (0x246b, [0x31, 0x32]), (0x246c, [0x31, 0x33]), (0x246d, [0x31, 0x34]), (0x246e, [0x31, 0x35]),
    (0x246f, [0x31, 0x36]), (0x2470, [0x31, 0x37]), (0x2471, [0x31, 0x38]), (0x2472, [0x31, 0x39]),
    (0x2473, [0x32, 0x30]), (0x2474, [0x28, 0x31, 0x29]), (0x2475, [0x28, 0x32, 0x29]),
    (0x2476, [0x28, 0x33, 0x29]), (0x2477, [0x28, 0x34, 0x29]), (0x2478, [0x28, 0x35, 0x29]),
    (0x2479, [0x28, 0x36, 0x29]), (0x247a, [0x28, 0x37, 0x29]), (0x247b, [0x28, 0x38, 0x29]),
    (0x247c, [0x28, 0x39, 0x29]), (0x247d, [0x28, 0x31, 0x30, 0x29]),
    (0x247e, [0x28, 0x31, 0x31, 0x29]), (0x247f, [0x28, 0x31, 0x32, 0x29]),
    (0x2480, [0x28, 0x31, 0x33, 0x29]), (0x2481, [0x28, 0x31, 0x34, 0x29]),
    (0x2482, [0x28, 0x31, 0x35, 0x29]), (0x2483, [0x28, 0x31, 0x36, 0x29]),
    (0x2484, [0x28, 0x31, 0x37, 0x29]), (0x2485, [0x28, 0x31, 0x38, 0x29]),
    (0x2486, [0x28, 0x31, 0x39, 0x29]), (0x2487, [0x28, 0x32, 0x30, 0x29]),
    (0x249c, [0x28, 0x61, 0x29]), (0x249d, [0x28, 0x62, 0x29]), (0x249e, [0x28, 0x63, 0x29]),
    (0x249f, [0x28, 0x64, 0x29]), (0x24a0, [0x28, 0x65, 0x29]), (0x24a1, [0x28, 0x66, 0x29]),
    (0x24a2, [0x28, 0x67, 0x29]), (0x24a3, [0x28, 0x68, 0x29]), (0x24a4, [0x28, 0x69, 0x29]),
    (0x24a5, [0x28, 0x6a, 0x29]), (0x24a6, [0x28, 0x6b, 0x29]), (0x24a7, [0x28, 0x6c, 0x29]),
    (0x24a8, [0x28, 0x6d, 0x29]), (0x24a9, [0x28, 0x6e, 0x29]), (0x24aa, [0x28, 0x6f, 0x29]),
    (0x24ab, [0x28, 0x70, 0x29]), (0x24ac, [0x28, 0x71, 0x29]), (0x24ad, [0x28, 0x72, 0x29]),
    (0x24ae, [0x28, 0x73, 0x29]), (0x24af, [0x28, 0x74, 0x29]), (0x24b0, [0x28, 0x75, 0x29]),
    (0x24b1, [0x28, 0x76, 0x29]), (0x24b2, [0x28, 0x77, 0x29]), (0x24b3, [0x28, 0x78, 0x29]),
    (0x24b4, [0x28, 0x79, 0x29]), (0x24b5, [0x28, 0x7a, 0x29]), (0x24ea, [0x30]),
    (0x2a0c, [0x222b, 0x222b, 0x222b, 0x222b]), (0x2a74, [0x3a, 0x3a, 0x3d]),
    (0x2a75, [0x3d, 0x3d]), (0x2a76, [0x3d, 0x3d, 0x3d]), (0x2c60, [0x2c61]), (0x2c62, [0x26b]),
    (0x2c63, [0x1d7d]), (0x2c64, [0x27d]), (0x2c6d, [0x251]), (0x2c6e, [0x271]), (0x2c6f, [0x250]),
    (0x2c70, [0x252]), (0x2c72, [0x2c73]), (0x2c75, [0x2c76]), (0x2c7c, [0x6a]), (0x2c7d, [0x76]),
    (0x2cf2, [0x2cf3]), (0x2d6f, [0x2d61])]

end HostDialing
