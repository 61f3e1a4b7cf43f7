import HostDialing.Domain.Mapped.Basic

/-!
# Mapped characters of alphabetic scripts

Letters that are no plain small ones: capitals, ligatures, modifiers and letters with marks of their
own, below U+2000.
-/

namespace HostDialing

/-- Letters of Latin, Greek, Cyrillic and their neighbours. -/
def mappedScripts : MappedTexts :=
  [(0xa0, [0x20]), (0xa8, [0x20, 0x308]), (0xaa, [0x61]), (0xaf, [0x20, 0x304]),
    (0xb4, [0x20, 0x301]), (0xb5, [0x3bc]), (0xb8, [0x20, 0x327]), (0xb9, [0x31]), (0xba, [0x6f]),
    (0xbc, [0x31, 0x2044, 0x34]), (0xbd, [0x31, 0x2044, 0x32]), (0xbe, [0x33, 0x2044, 0x34]),
    (0x130, [0x69, 0x307]), (0x132, [0x69, 0x6a]), (0x133, [0x69, 0x6a]), (0x13f, [0x6c, 0xb7]),
    (0x140, [0x6c, 0xb7]), (0x149, [0x2bc, 0x6e]), (0x178, [0xff]), (0x17f, [0x73]),
    (0x181, [0x253]), (0x186, [0x254]), (0x187, [0x188]), (0x18b, [0x18c]), (0x18e, [0x1dd]),
    (0x18f, [0x259]), (0x190, [0x25b]), (0x191, [0x192]), (0x193, [0x260]), (0x194, [0x263]),
    (0x196, [0x269]), (0x197, [0x268]), (0x198, [0x199]), (0x19c, [0x26f]), (0x19d, [0x272]),
    (0x19f, [0x275]), (0x1a6, [0x280]), (0x1a7, [0x1a8]), (0x1a9, [0x283]), (0x1ac, [0x1ad]),
    (0x1ae, [0x288]), (0x1af, [0x1b0]), (0x1b7, [0x292]), (0x1b8, [0x1b9]), (0x1bc, [0x1bd]),
    (0x1c4, [0x64, 0x17e]), (0x1c5, [0x64, 0x17e]), (0x1c6, [0x64, 0x17e]), (0x1c7, [0x6c, 0x6a]),
    (0x1c8, [0x6c, 0x6a]), (0x1c9, [0x6c, 0x6a]), (0x1ca, [0x6e, 0x6a]), (0x1cb, [0x6e, 0x6a]),
    (0x1cc, [0x6e, 0x6a]), (0x1f1, [0x64, 0x7a]), (0x1f2, [0x64, 0x7a]), (0x1f3, [0x64, 0x7a]),
    (0x1f4, [0x1f5]), (0x1f6, [0x195]), (0x1f7, [0x1bf]), (0x220, [0x19e]), (0x23a, [0x2c65]),
    (0x23b, [0x23c]), (0x23d, [0x19a]), (0x23e, [0x2c66]), (0x241, [0x242]), (0x243, [0x180]),
    (0x244, [0x289]), (0x245, [0x28c]), (0x2b1, [0x266]), (0x2b3, [0x72]), (0x2b4, [0x279]),
    (0x2b5, [0x27b]), (0x2b6, [0x281]), (0x2b7, [0x77]), (0x2b8, [0x79]), (0x2d8, [0x20, 0x306]),
    (0x2d9, [0x20, 0x307]), (0x2da, [0x20, 0x30a]), (0x2db, [0x20, 0x328]), (0x2dc, [0x20, 0x303]),
    (0x2dd, [0x20, 0x30b]), (0x2e0, [0x263]), (0x2e1, [0x6c]), (0x2e2, [0x73]), (0x2e3, [0x78]),
    (0x2e4, [0x295]), (0x345, [0x3b9]), (0x376, [0x377]), (0x37a, [0x20, 0x3b9]), (0x37f, [0x3f3]),
    (0x384, [0x20, 0x301]), (0x385, [0x20, 0x308, 0x301]), (0x386, [0x3ac]), (0x38c, [0x3cc]),
    (0x3cf, [0x3d7]), (0x3d0, [0x3b2]), (0x3d1, [0x3b8]), (0x3d2, [0x3c5]), (0x3d3, [0x3cd]),
    (0x3d4, [0x3cb]), (0x3d5, [0x3c6]), (0x3d6, [0x3c0]), (0x3f0, [0x3ba]), (0x3f1, [0x3c1]),
    (0x3f2, [0x3c3]), (0x3f4, [0x3b8]), (0x3f5, [0x3b5]), (0x3f7, [0x3f8]), (0x3f9, [0x3c3]),
    (0x3fa, [0x3fb]), (0x4c0, [0x4cf]), (0x587, [0x565, 0x582]), (0x675, [0x627, 0x674]),
    (0x676, [0x648, 0x674]), (0x677, [0x6c7, 0x674]), (0x678, [0x64a, 0x674]),
    (0xe33, [0xe4d, 0xe32]), (0xeb3, [0xecd, 0xeb2]), (0xedc, [0xeab, 0xe99]),
    (0xedd, [0xeab, 0xea1]), (0xf0c, [0xf0b]), (0xf77, [0xfb2, 0xf71, 0xf80]),
    (0xf79, [0xfb3, 0xf71, 0xf80]), (0x10c7, [0x2d27]), (0x10cd, [0x2d2d]), (0x10fc, [0x10dc]),
    (0x1c80, [0x432]), (0x1c81, [0x434]), (0x1c82, [0x43e]), (0x1c85, [0x442]), (0x1c86, [0x44a]),
    (0x1c87, [0x463]), (0x1c88, [0xa64b]), (0x1c89, [0x1c8a]), (0x1d2c, [0x61]), (0x1d2d, [0xe6]),
    (0x1d32, [0x1dd]), (0x1d3c, [0x6f]), (0x1d3d, [0x223]), (0x1d3e, [0x70]), (0x1d3f, [0x72]),
    (0x1d42, [0x77]), (0x1d43, [0x61]), (0x1d46, [0x1d02]), (0x1d47, [0x62]), (0x1d4a, [0x259]),
    (0x1d4d, [0x67]), (0x1d4f, [0x6b]), (0x1d51, [0x14b]), (0x1d53, [0x254]), (0x1d56, [0x70]),
    (0x1d59, [0x1d1d]), (0x1d5a, [0x26f]), (0x1d5b, [0x76]), (0x1d5c, [0x1d25]), (0x1d62, [0x69]),
    (0x1d63, [0x72]), (0x1d68, [0x3c1]), (0x1d78, [0x43d]), (0x1d9b, [0x252]), (0x1d9c, [0x63]),
    (0x1d9d, [0x255]), (0x1d9e, [0xf0]), (0x1d9f, [0x25c]), (0x1da0, [0x66]), (0x1da1, [0x25f]),
    (0x1da2, [0x261]), (0x1da3, [0x265]), (0x1da7, [0x1d7b]), (0x1da8, [0x29d]), (0x1da9, [0x26d]),
    (0x1daa, [0x1d85]), (0x1dab, [0x29f]), (0x1dac, [0x271]), (0x1dad, [0x270]), (0x1db2, [0x278]),
    (0x1db5, [0x1ab]), (0x1db8, [0x1d1c]), (0x1dbb, [0x7a]), (0x1dbf, [0x3b8]),
    (0x1e9a, [0x61, 0x2be]), (0x1e9b, [0x1e61]), (0x1e9e, [0xdf]), (0x1f80, [0x1f00, 0x3b9]),
    (0x1f81, [0x1f01, 0x3b9]), (0x1f82, [0x1f02, 0x3b9]), (0x1f83, [0x1f03, 0x3b9]),
    (0x1f84, [0x1f04, 0x3b9]), (0x1f85, [0x1f05, 0x3b9]), (0x1f86, [0x1f06, 0x3b9]),
    (0x1f87, [0x1f07, 0x3b9]), (0x1f88, [0x1f00, 0x3b9]), (0x1f89, [0x1f01, 0x3b9]),
    (0x1f8a, [0x1f02, 0x3b9]), (0x1f8b, [0x1f03, 0x3b9]), (0x1f8c, [0x1f04, 0x3b9]),
    (0x1f8d, [0x1f05, 0x3b9]), (0x1f8e, [0x1f06, 0x3b9]), (0x1f8f, [0x1f07, 0x3b9]),
    (0x1f90, [0x1f20, 0x3b9]), (0x1f91, [0x1f21, 0x3b9]), (0x1f92, [0x1f22, 0x3b9]),
    (0x1f93, [0x1f23, 0x3b9]), (0x1f94, [0x1f24, 0x3b9]), (0x1f95, [0x1f25, 0x3b9]),
    (0x1f96, [0x1f26, 0x3b9]), (0x1f97, [0x1f27, 0x3b9]), (0x1f98, [0x1f20, 0x3b9]),
    (0x1f99, [0x1f21, 0x3b9]), (0x1f9a, [0x1f22, 0x3b9]), (0x1f9b, [0x1f23, 0x3b9]),
    (0x1f9c, [0x1f24, 0x3b9]), (0x1f9d, [0x1f25, 0x3b9]), (0x1f9e, [0x1f26, 0x3b9]),
    (0x1f9f, [0x1f27, 0x3b9]), (0x1fa0, [0x1f60, 0x3b9]), (0x1fa1, [0x1f61, 0x3b9]),
    (0x1fa2, [0x1f62, 0x3b9]), (0x1fa3, [0x1f63, 0x3b9]), (0x1fa4, [0x1f64, 0x3b9]),
    (0x1fa5, [0x1f65, 0x3b9]), (0x1fa6, [0x1f66, 0x3b9]), (0x1fa7, [0x1f67, 0x3b9]),
    (0x1fa8, [0x1f60, 0x3b9]), (0x1fa9, [0x1f61, 0x3b9]), (0x1faa, [0x1f62, 0x3b9]),
    (0x1fab, [0x1f63, 0x3b9]), (0x1fac, [0x1f64, 0x3b9]), (0x1fad, [0x1f65, 0x3b9]),
    (0x1fae, [0x1f66, 0x3b9]), (0x1faf, [0x1f67, 0x3b9]), (0x1fb2, [0x1f70, 0x3b9]),
    (0x1fb3, [0x3b1, 0x3b9]), (0x1fb4, [0x3ac, 0x3b9]), (0x1fb7, [0x1fb6, 0x3b9]),
    (0x1fba, [0x1f70]), (0x1fbb, [0x3ac]), (0x1fbc, [0x3b1, 0x3b9]), (0x1fbd, [0x20, 0x313]),
    (0x1fbf, [0x20, 0x313]), (0x1fc0, [0x20, 0x342]), (0x1fc1, [0x20, 0x308, 0x342]),
    (0x1fc2, [0x1f74, 0x3b9]), (0x1fc3, [0x3b7, 0x3b9]), (0x1fc4, [0x3ae, 0x3b9]),
    (0x1fc7, [0x1fc6, 0x3b9]), (0x1fc9, [0x3ad]), (0x1fcb, [0x3ae]), (0x1fcc, [0x3b7, 0x3b9]),
    (0x1fcd, [0x20, 0x313, 0x300]), (0x1fce, [0x20, 0x313, 0x301]), (0x1fcf, [0x20, 0x313, 0x342]),
    (0x1fda, [0x1f76]), (0x1fdb, [0x3af]), (0x1fdd, [0x20, 0x314, 0x300]),
    (0x1fde, [0x20, 0x314, 0x301]), (0x1fdf, [0x20, 0x314, 0x342]), (0x1fea, [0x1f7a]),
    (0x1feb, [0x3cd]), (0x1fec, [0x1fe5]), (0x1fed, [0x20, 0x308, 0x300]),
    (0x1fee, [0x20, 0x308, 0x301]), (0x1ff2, [0x1f7c, 0x3b9]), (0x1ff3, [0x3c9, 0x3b9]),
    (0x1ff4, [0x3ce, 0x3b9]), (0x1ff7, [0x1ff6, 0x3b9]), (0x1ff8, [0x1f78]), (0x1ffa, [0x1f7c]),
    (0x1ffc, [0x3c9, 0x3b9]), (0x1ffd, [0x20, 0x301]), (0x1ffe, [0x20, 0x314])]

end HostDialing
