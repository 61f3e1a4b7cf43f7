import HostDialing.Domain.Mapped.Basic

/-!
# Runs of mapped characters

Alphabets whose capital letters are mapped to the small ones, letter by letter or, where capital and
small letters alternate, every other one, and alphabets in another face.
-/

namespace HostDialing

def mappedRuns : List MappedRun :=
  [⟨0x41, 26, 1, 0x61⟩, ⟨0xb2, 2, 1, 0x32⟩, ⟨0xc0, 23, 1, 0xe0⟩, ⟨0xd8, 7, 1, 0xf8⟩,
    ⟨0x100, 24, 2, 0x101⟩, ⟨0x134, 2, 2, 0x135⟩, ⟨0x139, 3, 2, 0x13a⟩, ⟨0x141, 4, 2, 0x142⟩,
    ⟨0x14a, 23, 2, 0x14b⟩, ⟨0x179, 3, 2, 0x17a⟩, ⟨0x182, 2, 2, 0x183⟩, ⟨0x189, 2, 1, 0x256⟩,
    ⟨0x1a0, 3, 2, 0x1a1⟩, ⟨0x1b1, 2, 1, 0x28a⟩, ⟨0x1b3, 2, 2, 0x1b4⟩, ⟨0x1cd, 8, 2, 0x1ce⟩,
    ⟨0x1de, 9, 2, 0x1df⟩, ⟨0x1f8, 20, 2, 0x1f9⟩, ⟨0x222, 9, 2, 0x223⟩, ⟨0x246, 5, 2, 0x247⟩,
    ⟨0x2b0, 2, 2, 0x68⟩, ⟨0x370, 2, 2, 0x371⟩, ⟨0x388, 3, 1, 0x3ad⟩, ⟨0x38e, 2, 1, 0x3cd⟩,
    ⟨0x391, 17, 1, 0x3b1⟩, ⟨0x3a3, 9, 1, 0x3c3⟩, ⟨0x3d8, 12, 2, 0x3d9⟩, ⟨0x3fd, 3, 1, 0x37b⟩,
    ⟨0x400, 16, 1, 0x450⟩, ⟨0x410, 32, 1, 0x430⟩, ⟨0x460, 17, 2, 0x461⟩, ⟨0x48a, 27, 2, 0x48b⟩,
    ⟨0x4c1, 7, 2, 0x4c2⟩, ⟨0x4d0, 48, 2, 0x4d1⟩, ⟨0x531, 38, 1, 0x561⟩, ⟨0x10a0, 38, 1, 0x2d00⟩,
    ⟨0x13f8, 6, 1, 0x13f0⟩, ⟨0x1c83, 2, 1, 0x441⟩, ⟨0x1c90, 43, 1, 0x10d0⟩, ⟨0x1cbd, 3, 1, 0x10fd⟩,
    ⟨0x1d2e, 2, 2, 0x62⟩, ⟨0x1d31, 5, 2, 0x65⟩, ⟨0x1d34, 4, 2, 0x68⟩, ⟨0x1d40, 2, 1, 0x74⟩,
    ⟨0x1d44, 2, 1, 0x250⟩, ⟨0x1d48, 2, 1, 0x64⟩, ⟨0x1d4b, 2, 1, 0x25b⟩, ⟨0x1d50, 2, 2, 0x6d⟩,
    ⟨0x1d54, 2, 1, 0x1d16⟩, ⟨0x1d57, 2, 1, 0x74⟩, ⟨0x1d5d, 3, 1, 0x3b2⟩, ⟨0x1d60, 2, 1, 0x3c6⟩,
    ⟨0x1d64, 2, 1, 0x75⟩, ⟨0x1d66, 2, 1, 0x3b2⟩, ⟨0x1d69, 2, 1, 0x3c6⟩, ⟨0x1da4, 3, 1, 0x268⟩,
    ⟨0x1dae, 4, 1, 0x272⟩, ⟨0x1db3, 2, 1, 0x282⟩, ⟨0x1db6, 2, 1, 0x289⟩, ⟨0x1db9, 2, 1, 0x28b⟩,
    ⟨0x1dbc, 3, 1, 0x290⟩, ⟨0x1e00, 75, 2, 0x1e01⟩, ⟨0x1ea0, 48, 2, 0x1ea1⟩,
    ⟨0x1f08, 8, 1, 0x1f00⟩, ⟨0x1f18, 6, 1, 0x1f10⟩, ⟨0x1f28, 8, 1, 0x1f20⟩, ⟨0x1f38, 8, 1, 0x1f30⟩,
    ⟨0x1f48, 6, 1, 0x1f40⟩, ⟨0x1f59, 4, 2, 0x1f51⟩, ⟨0x1f68, 8, 1, 0x1f60⟩, ⟨0x1fb8, 2, 1, 0x1fb0⟩,
    ⟨0x1fc8, 2, 2, 0x1f72⟩, ⟨0x1fd8, 2, 1, 0x1fd0⟩, ⟨0x1fe8, 2, 1, 0x1fe0⟩, ⟨0x1ff9, 2, 2, 0x3cc⟩,
    ⟨0x2074, 6, 1, 0x34⟩, ⟨0x207d, 2, 1, 0x28⟩, ⟨0x2080, 10, 1, 0x30⟩, ⟨0x208d, 2, 1, 0x28⟩,
    ⟨0x2096, 4, 1, 0x6b⟩, ⟨0x209b, 2, 1, 0x73⟩, ⟨0x210a, 2, 1, 0x67⟩, ⟨0x2113, 2, 2, 0x6c⟩,
    ⟨0x2119, 3, 1, 0x70⟩, ⟨0x212c, 2, 1, 0x62⟩, ⟨0x2130, 2, 1, 0x65⟩, ⟨0x2135, 4, 1, 0x5d0⟩,
    ⟨0x2146, 2, 1, 0x64⟩, ⟨0x2148, 2, 1, 0x69⟩, ⟨0x216d, 2, 1, 0x63⟩, ⟨0x217d, 2, 1, 0x63⟩,
    ⟨0x2460, 9, 1, 0x31⟩, ⟨0x24b6, 26, 1, 0x61⟩, ⟨0x24d0, 26, 1, 0x61⟩, ⟨0x2c00, 48, 1, 0x2c30⟩,
    ⟨0x2c67, 3, 2, 0x2c68⟩, ⟨0x2c7e, 2, 1, 0x23f⟩, ⟨0x2c80, 50, 2, 0x2c81⟩, ⟨0x2ceb, 2, 2, 0x2cec⟩,
    ⟨0x3039, 2, 1, 0x5344⟩, ⟨0x3131, 2, 1, 0x1100⟩, ⟨0x3133, 2, 2, 0x11aa⟩, ⟨0x3137, 3, 1, 0x1103⟩,
    ⟨0x313a, 6, 1, 0x11b0⟩, ⟨0x3141, 3, 1, 0x1106⟩, ⟨0x3145, 10, 1, 0x1109⟩,
    ⟨0x314f, 21, 1, 0x1161⟩, ⟨0x3165, 2, 1, 0x1114⟩, ⟨0x3167, 2, 1, 0x11c7⟩,
    ⟨0x3171, 2, 1, 0x111d⟩, ⟨0x3174, 2, 1, 0x1122⟩, ⟨0x3178, 5, 1, 0x112b⟩, ⟨0x3182, 2, 1, 0x11f1⟩,
    ⟨0x3184, 3, 1, 0x1157⟩, ⟨0x3187, 2, 1, 0x1184⟩, ⟨0x318a, 2, 1, 0x1191⟩, ⟨0x3261, 2, 1, 0x1102⟩,
    ⟨0x3263, 3, 1, 0x1105⟩, ⟨0x3267, 2, 1, 0x110b⟩, ⟨0x3269, 5, 1, 0x110e⟩, ⟨0x32d4, 2, 1, 0x30aa⟩,
    ⟨0x32e4, 6, 1, 0x30ca⟩, ⟨0x32ee, 5, 1, 0x30de⟩, ⟨0x32f5, 6, 1, 0x30e8⟩, ⟨0x32fb, 4, 1, 0x30ef⟩,
    ⟨0xa640, 23, 2, 0xa641⟩, ⟨0xa680, 14, 2, 0xa681⟩, ⟨0xa722, 7, 2, 0xa723⟩,
    ⟨0xa732, 31, 2, 0xa733⟩, ⟨0xa779, 2, 2, 0xa77a⟩, ⟨0xa77e, 5, 2, 0xa77f⟩,
    ⟨0xa790, 2, 2, 0xa791⟩, ⟨0xa796, 10, 2, 0xa797⟩, ⟨0xa7b4, 8, 2, 0xa7b5⟩,
    ⟨0xa7c7, 2, 2, 0xa7c8⟩, ⟨0xa7cc, 8, 2, 0xa7cd⟩, ⟨0xab70, 80, 1, 0x13a0⟩, ⟨0xfb22, 2, 1, 0x5d3⟩,
    ⟨0xfb24, 3, 1, 0x5db⟩, ⟨0xfb58, 2, 2, 0x67e⟩, ⟨0xfb59, 2, 2, 0x67e⟩, ⟨0xfb6c, 2, 2, 0x6a4⟩,
    ⟨0xfb6d, 2, 2, 0x6a4⟩, ⟨0xfb7d, 2, 1, 0x686⟩, ⟨0xfb84, 2, 2, 0x68c⟩, ⟨0xfb85, 2, 2, 0x68c⟩,
    ⟨0xfb9f, 2, 1, 0x6ba⟩, ⟨0xfba5, 2, 1, 0x6c0⟩, ⟨0xfbaf, 2, 1, 0x6d2⟩, ⟨0xfbd9, 2, 2, 0x6c6⟩,
    ⟨0xfbda, 2, 2, 0x6c6⟩, ⟨0xfe13, 2, 1, 0x3a⟩, ⟨0xfe17, 2, 1, 0x3016⟩, ⟨0xfe35, 2, 1, 0x28⟩,
    ⟨0xfe39, 2, 1, 0x3014⟩, ⟨0xfe3b, 2, 1, 0x3010⟩, ⟨0xfe3d, 2, 1, 0x300a⟩, ⟨0xfe3f, 2, 1, 0x3008⟩,
    ⟨0xfe41, 4, 1, 0x300c⟩, ⟨0xfe59, 2, 1, 0x28⟩, ⟨0xfe5d, 2, 1, 0x3014⟩, ⟨0xfe61, 2, 1, 0x2a⟩,
    ⟨0xfe69, 2, 1, 0x24⟩, ⟨0xfe80, 2, 1, 0x621⟩, ⟨0xfe82, 2, 1, 0x622⟩, ⟨0xfe84, 2, 1, 0x623⟩,
    ⟨0xfe86, 2, 1, 0x624⟩, ⟨0xfe88, 2, 1, 0x625⟩, ⟨0xfe8c, 2, 1, 0x626⟩, ⟨0xfe8e, 2, 1, 0x627⟩,
    ⟨0xfe92, 2, 1, 0x628⟩, ⟨0xfe94, 2, 1, 0x629⟩, ⟨0xfe98, 2, 1, 0x62a⟩, ⟨0xfe9c, 2, 1, 0x62b⟩,
    ⟨0xfea0, 2, 1, 0x62c⟩, ⟨0xfea4, 2, 1, 0x62d⟩, ⟨0xfea8, 2, 1, 0x62e⟩, ⟨0xfeaa, 2, 1, 0x62f⟩,
    ⟨0xfeac, 2, 1, 0x630⟩, ⟨0xfeae, 2, 1, 0x631⟩, ⟨0xfeb0, 2, 1, 0x632⟩, ⟨0xfeb4, 2, 1, 0x633⟩,
    ⟨0xfeb8, 2, 1, 0x634⟩, ⟨0xfebc, 2, 1, 0x635⟩, ⟨0xfec0, 2, 1, 0x636⟩, ⟨0xfec4, 2, 1, 0x637⟩,
    ⟨0xfec8, 2, 1, 0x638⟩, ⟨0xfecc, 2, 1, 0x639⟩, ⟨0xfed4, 2, 1, 0x641⟩, ⟨0xfed8, 2, 1, 0x642⟩,
    ⟨0xfedc, 2, 1, 0x643⟩, ⟨0xfee0, 2, 1, 0x644⟩, ⟨0xfee4, 2, 1, 0x645⟩, ⟨0xfee8, 2, 1, 0x646⟩,
    ⟨0xfeec, 2, 1, 0x647⟩, ⟨0xfeee, 2, 1, 0x648⟩, ⟨0xfef0, 2, 1, 0x649⟩, ⟨0xff01, 32, 1, 0x21⟩,
    ⟨0xff21, 26, 1, 0x61⟩, ⟨0xff3b, 36, 1, 0x5b⟩, ⟨0xff5f, 2, 1, 0x2985⟩, ⟨0xff62, 2, 1, 0x300c⟩,
    ⟨0xff75, 2, 1, 0x30aa⟩, ⟨0xff85, 6, 1, 0x30ca⟩, ⟨0xff8f, 5, 1, 0x30de⟩, ⟨0xff96, 6, 1, 0x30e8⟩,
    ⟨0xff9e, 2, 1, 0x3099⟩, ⟨0xffa1, 2, 1, 0x1100⟩, ⟨0xffa3, 2, 2, 0x11aa⟩, ⟨0xffa7, 3, 1, 0x1103⟩,
    ⟨0xffaa, 6, 1, 0x11b0⟩, ⟨0xffb1, 3, 1, 0x1106⟩, ⟨0xffb5, 10, 1, 0x1109⟩,
    ⟨0xffc2, 6, 1, 0x1161⟩, ⟨0xffca, 6, 1, 0x1167⟩, ⟨0xffd2, 6, 1, 0x116d⟩, ⟨0xffda, 3, 1, 0x1173⟩,
    ⟨0xffe0, 2, 1, 0xa2⟩, ⟨0xffe9, 4, 1, 0x2190⟩, ⟨0x10400, 40, 1, 0x10428⟩,
    ⟨0x104b0, 36, 1, 0x104d8⟩, ⟨0x10570, 19, 2, 0x10597⟩, ⟨0x10571, 5, 2, 0x10598⟩,
    ⟨0x1057d, 7, 2, 0x105a4⟩, ⟨0x1058d, 3, 2, 0x105b4⟩, ⟨0x10781, 2, 1, 0x2d0⟩,
    ⟨0x10787, 2, 2, 0x2a3⟩, ⟨0x1078b, 2, 1, 0x256⟩, ⟨0x10799, 2, 1, 0x2aa⟩, ⟨0x107a3, 2, 1, 0x276⟩,
    ⟨0x107a8, 2, 1, 0x27d⟩, ⟨0x107b3, 2, 1, 0x2a1⟩, ⟨0x107b6, 3, 1, 0x1c0⟩,
    ⟨0x10c80, 51, 1, 0x10cc0⟩, ⟨0x10d50, 22, 1, 0x10d70⟩, ⟨0x118a0, 32, 1, 0x118c0⟩,
    ⟨0x16e40, 32, 1, 0x16e60⟩, ⟨0x16ea0, 25, 1, 0x16ebb⟩, ⟨0x1ccd6, 26, 1, 0x61⟩,
    ⟨0x1ccf0, 10, 1, 0x30⟩, ⟨0x1d400, 26, 1, 0x61⟩, ⟨0x1d41a, 26, 1, 0x61⟩, ⟨0x1d434, 26, 1, 0x61⟩,
    ⟨0x1d44e, 13, 2, 0x61⟩, ⟨0x1d44f, 3, 2, 0x62⟩, ⟨0x1d457, 9, 2, 0x6a⟩, ⟨0x1d468, 26, 1, 0x61⟩,
    ⟨0x1d482, 26, 1, 0x61⟩, ⟨0x1d49c, 2, 2, 0x61⟩, ⟨0x1d4a5, 2, 1, 0x6a⟩, ⟨0x1d4a9, 4, 1, 0x6e⟩,
    ⟨0x1d4ae, 8, 1, 0x73⟩, ⟨0x1d4b6, 4, 1, 0x61⟩, ⟨0x1d4bb, 11, 2, 0x66⟩, ⟨0x1d4be, 3, 2, 0x69⟩,
    ⟨0x1d4c6, 5, 2, 0x71⟩, ⟨0x1d4d0, 26, 1, 0x61⟩, ⟨0x1d4ea, 26, 1, 0x61⟩, ⟨0x1d504, 2, 1, 0x61⟩,
    ⟨0x1d507, 4, 1, 0x64⟩, ⟨0x1d50d, 8, 1, 0x6a⟩, ⟨0x1d516, 7, 1, 0x73⟩, ⟨0x1d51e, 26, 1, 0x61⟩,
    ⟨0x1d538, 2, 1, 0x61⟩, ⟨0x1d53b, 4, 1, 0x64⟩, ⟨0x1d540, 5, 1, 0x69⟩, ⟨0x1d54a, 7, 1, 0x73⟩,
    ⟨0x1d552, 26, 1, 0x61⟩, ⟨0x1d56c, 26, 1, 0x61⟩, ⟨0x1d586, 26, 1, 0x61⟩, ⟨0x1d5a0, 26, 1, 0x61⟩,
    ⟨0x1d5ba, 26, 1, 0x61⟩, ⟨0x1d5d4, 26, 1, 0x61⟩, ⟨0x1d5ee, 26, 1, 0x61⟩, ⟨0x1d608, 26, 1, 0x61⟩,
    ⟨0x1d622, 26, 1, 0x61⟩, ⟨0x1d63c, 26, 1, 0x61⟩, ⟨0x1d656, 26, 1, 0x61⟩, ⟨0x1d670, 26, 1, 0x61⟩,
    ⟨0x1d68a, 26, 1, 0x61⟩, ⟨0x1d6a8, 17, 1, 0x3b1⟩, ⟨0x1d6ba, 7, 1, 0x3c3⟩,
    ⟨0x1d6c2, 17, 1, 0x3b1⟩, ⟨0x1d6d4, 7, 1, 0x3c3⟩, ⟨0x1d6e2, 17, 1, 0x3b1⟩,
    ⟨0x1d6f4, 7, 1, 0x3c3⟩, ⟨0x1d6fc, 17, 1, 0x3b1⟩, ⟨0x1d70e, 7, 1, 0x3c3⟩,
    ⟨0x1d71c, 17, 1, 0x3b1⟩, ⟨0x1d72e, 7, 1, 0x3c3⟩, ⟨0x1d736, 17, 1, 0x3b1⟩,
    ⟨0x1d748, 7, 1, 0x3c3⟩, ⟨0x1d756, 17, 1, 0x3b1⟩, ⟨0x1d768, 7, 1, 0x3c3⟩,
    ⟨0x1d770, 17, 1, 0x3b1⟩, ⟨0x1d782, 7, 1, 0x3c3⟩, ⟨0x1d790, 17, 1, 0x3b1⟩,
    ⟨0x1d7a2, 7, 1, 0x3c3⟩, ⟨0x1d7aa, 17, 1, 0x3b1⟩, ⟨0x1d7bc, 7, 1, 0x3c3⟩,
    ⟨0x1d7ce, 10, 1, 0x30⟩, ⟨0x1d7d8, 10, 1, 0x30⟩, ⟨0x1d7e2, 10, 1, 0x30⟩, ⟨0x1d7ec, 10, 1, 0x30⟩,
    ⟨0x1d7f6, 10, 1, 0x30⟩, ⟨0x1e030, 9, 1, 0x430⟩, ⟨0x1e039, 3, 1, 0x43a⟩,
    ⟨0x1e03c, 11, 1, 0x43e⟩, ⟨0x1e048, 2, 1, 0x44d⟩, ⟨0x1e051, 9, 1, 0x430⟩,
    ⟨0x1e05a, 2, 1, 0x43a⟩, ⟨0x1e05c, 2, 1, 0x43e⟩, ⟨0x1e05f, 6, 1, 0x443⟩, ⟨0x1e065, 2, 1, 0x44a⟩,
    ⟨0x1e900, 34, 1, 0x1e922⟩, ⟨0x1ee00, 2, 1, 0x627⟩, ⟨0x1ee0a, 4, 1, 0x643⟩,
    ⟨0x1ee15, 2, 1, 0x62a⟩, ⟨0x1ee2a, 4, 1, 0x643⟩, ⟨0x1ee35, 2, 1, 0x62a⟩, ⟨0x1ee4b, 2, 2, 0x644⟩,
    ⟨0x1ee6a, 2, 2, 0x643⟩, ⟨0x1ee75, 2, 1, 0x62a⟩, ⟨0x1ee80, 2, 1, 0x627⟩, ⟨0x1ee84, 2, 1, 0x647⟩,
    ⟨0x1ee8b, 3, 1, 0x644⟩, ⟨0x1ee95, 2, 1, 0x62a⟩, ⟨0x1eeab, 3, 1, 0x644⟩, ⟨0x1eeb5, 2, 1, 0x62a⟩,
    ⟨0x1f130, 26, 1, 0x61⟩, ⟨0x1fbf0, 10, 1, 0x30⟩]

end HostDialing
