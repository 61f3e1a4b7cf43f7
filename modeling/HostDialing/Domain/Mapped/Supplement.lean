import HostDialing.Domain.Mapped.Basic

/-!
# Mapped characters of the supplementary planes

Modifier letters, mathematical alphabets, and letters and digits that are enclosed.
-/

namespace HostDialing

/-- Characters from U+10000 up. -/
def mappedSupplement : MappedTexts :=
  [(0x10595, [0x105bc]), (0x10783, [0xe6]), (0x10784, [0x299]), (0x10785, [0x253]),
    (0x10788, [0xab66]), (0x1078a, [0x2a4]), (0x1078d, [0x1d91]), (0x1078e, [0x258]),
    (0x1078f, [0x25e]), (0x10790, [0x2a9]), (0x10791, [0x264]), (0x10792, [0x262]),
    (0x10793, [0x260]), (0x10794, [0x29b]), (0x10795, [0x127]), (0x10796, [0x29c]),
    (0x10797, [0x267]), (0x10798, [0x284]), (0x1079b, [0x26c]), (0x1079c, [0x1df04]),
    (0x1079d, [0xa78e]), (0x1079e, [0x26e]), (0x1079f, [0x1df05]), (0x107a0, [0x28e]),
    (0x107a1, [0x1df06]), (0x107a2, [0xf8]), (0x107a5, [0x71]), (0x107a6, [0x27a]),
    (0x107a7, [0x1df08]), (0x107aa, [0x280]), (0x107ab, [0x2a8]), (0x107ac, [0x2a6]),
    (0x107ad, [0xab67]), (0x107ae, [0x2a7]), (0x107af, [0x288]), (0x107b0, [0x2c71]),
    (0x107b2, [0x28f]), (0x107b5, [0x298]), (0x107b9, [0x1df0a]), (0x107ba, [0x1df1e]),
    (0x1d49f, [0x64]), (0x1d4a2, [0x67]), (0x1d546, [0x6f]), (0x1d6a4, [0x131]),
    (0x1d6a5, [0x237]), (0x1d6b9, [0x3b8]), (0x1d6c1, [0x2207]), (0x1d6d3, [0x3c3]),
    (0x1d6db, [0x2202]), (0x1d6dc, [0x3b5]), (0x1d6dd, [0x3b8]), (0x1d6de, [0x3ba]),
    (0x1d6df, [0x3c6]), (0x1d6e0, [0x3c1]), (0x1d6e1, [0x3c0]), (0x1d6f3, [0x3b8]),
    (0x1d6fb, [0x2207]), (0x1d70d, [0x3c3]), (0x1d715, [0x2202]), (0x1d716, [0x3b5]),
    (0x1d717, [0x3b8]), (0x1d718, [0x3ba]), (0x1d719, [0x3c6]), (0x1d71a, [0x3c1]),
    (0x1d71b, [0x3c0]), (0x1d72d, [0x3b8]), (0x1d735, [0x2207]), (0x1d747, [0x3c3]),
    (0x1d74f, [0x2202]), (0x1d750, [0x3b5]), (0x1d751, [0x3b8]), (0x1d752, [0x3ba]),
    (0x1d753, [0x3c6]), (0x1d754, [0x3c1]), (0x1d755, [0x3c0]), (0x1d767, [0x3b8]),
    (0x1d76f, [0x2207]), (0x1d781, [0x3c3]), (0x1d789, [0x2202]), (0x1d78a, [0x3b5]),
    (0x1d78b, [0x3b8]), (0x1d78c, [0x3ba]), (0x1d78d, [0x3c6]), (0x1d78e, [0x3c1]),
    (0x1d78f, [0x3c0]), (0x1d7a1, [0x3b8]), (0x1d7a9, [0x2207]), (0x1d7bb, [0x3c3]),
    (0x1d7c3, [0x2202]), (0x1d7c4, [0x3b5]), (0x1d7c5, [0x3b8]), (0x1d7c6, [0x3ba]),
    (0x1d7c7, [0x3c6]), (0x1d7c8, [0x3c1]), (0x1d7c9, [0x3c0]), (0x1d7ca, [0x3dd]),
    (0x1d7cb, [0x3dd]), (0x1e047, [0x44b]), (0x1e04a, [0xa689]), (0x1e04b, [0x4d9]),
    (0x1e04c, [0x456]), (0x1e04d, [0x458]), (0x1e04e, [0x4e9]), (0x1e04f, [0x4af]),
    (0x1e050, [0x4cf]), (0x1e05e, [0x441]), (0x1e067, [0x491]), (0x1e068, [0x456]),
    (0x1e069, [0x455]), (0x1e06a, [0x45f]), (0x1e06b, [0x4ab]), (0x1e06c, [0xa651]),
    (0x1e06d, [0x4b1]), (0x1ee02, [0x62c]), (0x1ee03, [0x62f]), (0x1ee05, [0x648]),
    (0x1ee06, [0x632]), (0x1ee07, [0x62d]), (0x1ee08, [0x637]), (0x1ee09, [0x64a]),
    (0x1ee0e, [0x633]), (0x1ee0f, [0x639]), (0x1ee10, [0x641]), (0x1ee11, [0x635]),
    (0x1ee12, [0x642]), (0x1ee13, [0x631]), (0x1ee14, [0x634]), (0x1ee17, [0x62e]),
    (0x1ee18, [0x630]), (0x1ee19, [0x636]), (0x1ee1a, [0x638]), (0x1ee1b, [0x63a]),
    (0x1ee1c, [0x66e]), (0x1ee1d, [0x6ba]), (0x1ee1e, [0x6a1]), (0x1ee1f, [0x66f]),
    (0x1ee21, [0x628]), (0x1ee22, [0x62c]), (0x1ee24, [0x647]), (0x1ee27, [0x62d]),
    (0x1ee29, [0x64a]), (0x1ee2e, [0x633]), (0x1ee2f, [0x639]), (0x1ee30, [0x641]),
    (0x1ee31, [0x635]), (0x1ee32, [0x642]), (0x1ee34, [0x634]), (0x1ee37, [0x62e]),
    (0x1ee39, [0x636]), (0x1ee3b, [0x63a]), (0x1ee42, [0x62c]), (0x1ee47, [0x62d]),
    (0x1ee49, [0x64a]), (0x1ee4e, [0x633]), (0x1ee4f, [0x639]), (0x1ee51, [0x635]),
    (0x1ee52, [0x642]), (0x1ee54, [0x634]), (0x1ee57, [0x62e]), (0x1ee59, [0x636]),
    (0x1ee5b, [0x63a]), (0x1ee5d, [0x6ba]), (0x1ee5f, [0x66f]), (0x1ee61, [0x628]),
    (0x1ee62, [0x62c]), (0x1ee64, [0x647]), (0x1ee67, [0x62d]), (0x1ee68, [0x637]),
    (0x1ee69, [0x64a]), (0x1ee6d, [0x646]), (0x1ee6e, [0x633]), (0x1ee6f, [0x639]),
    (0x1ee70, [0x641]), (0x1ee71, [0x635]), (0x1ee72, [0x642]), (0x1ee74, [0x634]),
    (0x1ee77, [0x62e]), (0x1ee79, [0x636]), (0x1ee7a, [0x638]), (0x1ee7b, [0x63a]),
    (0x1ee7c, [0x66e]), (0x1ee7e, [0x6a1]), (0x1ee82, [0x62c]), (0x1ee83, [0x62f]),
    (0x1ee86, [0x632]), (0x1ee87, [0x62d]), (0x1ee88, [0x637]), (0x1ee89, [0x64a]),
    (0x1ee8e, [0x633]), (0x1ee8f, [0x639]), (0x1ee90, [0x641]), (0x1ee91, [0x635]),
    (0x1ee92, [0x642]), (0x1ee93, [0x631]), (0x1ee94, [0x634]), (0x1ee97, [0x62e]),
    (0x1ee98, [0x630]), (0x1ee99, [0x636]), (0x1ee9a, [0x638]), (0x1ee9b, [0x63a]),
    (0x1eea1, [0x628]), (0x1eea2, [0x62c]), (0x1eea3, [0x62f]), (0x1eea5, [0x648]),
    (0x1eea6, [0x632]), (0x1eea7, [0x62d]), (0x1eea8, [0x637]), (0x1eea9, [0x64a]),
    (0x1eeae, [0x633]), (0x1eeaf, [0x639]), (0x1eeb0, [0x641]), (0x1eeb1, [0x635]),
    (0x1eeb2, [0x642]), (0x1eeb3, [0x631]), (0x1eeb4, [0x634]), (0x1eeb7, [0x62e]),
    (0x1eeb8, [0x630]), (0x1eeb9, [0x636]), (0x1eeba, [0x638]), (0x1eebb, [0x63a]),
    (0x1f101, [0x30, 0x2c]), (0x1f102, [0x31, 0x2c]), (0x1f103, [0x32, 0x2c]),
    (0x1f104, [0x33, 0x2c]), (0x1f105, [0x34, 0x2c]), (0x1f106, [0x35, 0x2c]),
    (0x1f107, [0x36, 0x2c]), (0x1f108, [0x37, 0x2c]), (0x1f109, [0x38, 0x2c]),
    (0x1f10a, [0x39, 0x2c]), (0x1f110, [0x28, 0x61, 0x29]), (0x1f111, [0x28, 0x62, 0x29]),
    (0x1f112, [0x28, 0x63, 0x29]), (0x1f113, [0x28, 0x64, 0x29]), (0x1f114, [0x28, 0x65, 0x29]),
    (0x1f115, [0x28, 0x66, 0x29]), (0x1f116, [0x28, 0x67, 0x29]), (0x1f117, [0x28, 0x68, 0x29]),
    (0x1f118, [0x28, 0x69, 0x29]), (0x1f119, [0x28, 0x6a, 0x29]), (0x1f11a, [0x28, 0x6b, 0x29]),
    (0x1f11b, [0x28, 0x6c, 0x29]), (0x1f11c, [0x28, 0x6d, 0x29]), (0x1f11d, [0x28, 0x6e, 0x29]),
    (0x1f11e, [0x28, 0x6f, 0x29]), (0x1f11f, [0x28, 0x70, 0x29]), (0x1f120, [0x28, 0x71, 0x29]),
    (0x1f121, [0x28, 0x72, 0x29]), (0x1f122, [0x28, 0x73, 0x29]), (0x1f123, [0x28, 0x74, 0x29]),
    (0x1f124, [0x28, 0x75, 0x29]), (0x1f125, [0x28, 0x76, 0x29]), (0x1f126, [0x28, 0x77, 0x29]),
    (0x1f127, [0x28, 0x78, 0x29]), (0x1f128, [0x28, 0x79, 0x29]), (0x1f129, [0x28, 0x7a, 0x29]),
    (0x1f12a, [0x3014, 0x73, 0x3015]), (0x1f12b, [0x63]), (0x1f12c, [0x72]),
    (0x1f12d, [0x63, 0x64]), (0x1f12e, [0x77, 0x7a]), (0x1f14a, [0x68, 0x76]),
    (0x1f14b, [0x6d, 0x76]), (0x1f14c, [0x73, 0x64]), (0x1f14d, [0x73, 0x73]),
    (0x1f14e, [0x70, 0x70, 0x76]), (0x1f14f, [0x77, 0x63]), (0x1f16a, [0x6d, 0x63]),
    (0x1f16b, [0x6d, 0x64]), (0x1f16c, [0x6d, 0x72]), (0x1f190, [0x64, 0x6a]),
    (0x1f200, [0x307b, 0x304b]), (0x1f201, [0x30b3, 0x30b3]), (0x1f202, [0x30b5]),
    (0x1f210, [0x624b]), (0x1f211, [0x5b57]), (0x1f212, [0x53cc]), (0x1f213, [0x30c7]),
    (0x1f214, [0x4e8c]), (0x1f215, [0x591a]), (0x1f216, [0x89e3]), (0x1f217, [0x5929]),
    (0x1f218, [0x4ea4]), (0x1f219, [0x6620]), (0x1f21a, [0x7121]), (0x1f21b, [0x6599]),
    (0x1f21c, [0x524d]), (0x1f21d, [0x5f8c]), (0x1f21e, [0x518d]), (0x1f21f, [0x65b0]),
    (0x1f220, [0x521d]), (0x1f221, [0x7d42]), (0x1f222, [0x751f]), (0x1f223, [0x8ca9]),
    (0x1f224, [0x58f0]), (0x1f225, [0x5439]), (0x1f226, [0x6f14]), (0x1f227, [0x6295]),
    (0x1f228, [0x6355]), (0x1f229, [0x4e00]), (0x1f22a, [0x4e09]), (0x1f22b, [0x904a]),
    (0x1f22c, [0x5de6]), (0x1f22d, [0x4e2d]), (0x1f22e, [0x53f3]), (0x1f22f, [0x6307]),
    (0x1f230, [0x8d70]), (0x1f231, [0x6253]), (0x1f232, [0x7981]), (0x1f233, [0x7a7a]),
    (0x1f234, [0x5408]), (0x1f235, [0x6e80]), (0x1f236, [0x6709]), (0x1f237, [0x6708]),
    (0x1f238, [0x7533]), (0x1f239, [0x5272]), (0x1f23a, [0x55b6]), (0x1f23b, [0x914d]),
    (0x1f240, [0x3014, 0x672c, 0x3015]), (0x1f241, [0x3014, 0x4e09, 0x3015]),
    (0x1f242, [0x3014, 0x4e8c, 0x3015]), (0x1f243, [0x3014, 0x5b89, 0x3015]),
    (0x1f244, [0x3014, 0x70b9, 0x3015]), (0x1f245, [0x3014, 0x6253, 0x3015]),
    (0x1f246, [0x3014, 0x76d7, 0x3015]), (0x1f247, [0x3014, 0x52dd, 0x3015]),
    (0x1f248, [0x3014, 0x6557, 0x3015]), (0x1f250, [0x5f97]), (0x1f251, [0x53ef])]

end HostDialing
