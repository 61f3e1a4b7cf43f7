import HostDialing.Domain.Mapped.Basic

/-!
# Mapped characters of East Asian scripts

Radicals, which are mapped to the ideographs that they look like, letters of their own of Hangul,
and words, numbers and units that are set into one square.
-/

namespace HostDialing

/-- Radicals, and letters of Hangul that stand alone. -/
def mappedRadicals : MappedTexts :=
  [(0x2e9f, [0x6bcd]), (0x2ef3, [0x9f9f]), (0x2f00, [0x4e00]), (0x2f01, [0x4e28]),
    (0x2f02, [0x4e36]), (0x2f03, [0x4e3f]), (0x2f04, [0x4e59]), (0x2f05, [0x4e85]),
    (0x2f06, [0x4e8c]), (0x2f07, [0x4ea0]), (0x2f08, [0x4eba]), (0x2f09, [0x513f]),
    (0x2f0a, [0x5165]), (0x2f0b, [0x516b]), (0x2f0c, [0x5182]), (0x2f0d, [0x5196]),
    (0x2f0e, [0x51ab]), (0x2f0f, [0x51e0]), (0x2f10, [0x51f5]), (0x2f11, [0x5200]),
    (0x2f12, [0x529b]), (0x2f13, [0x52f9]), (0x2f14, [0x5315]), (0x2f15, [0x531a]),
    (0x2f16, [0x5338]), (0x2f17, [0x5341]), (0x2f18, [0x535c]), (0x2f19, [0x5369]),
    (0x2f1a, [0x5382]), (0x2f1b, [0x53b6]), (0x2f1c, [0x53c8]), (0x2f1d, [0x53e3]),
    (0x2f1e, [0x56d7]), (0x2f1f, [0x571f]), (0x2f20, [0x58eb]), (0x2f21, [0x5902]),
    (0x2f22, [0x590a]), (0x2f23, [0x5915]), (0x2f24, [0x5927]), (0x2f25, [0x5973]),
    (0x2f26, [0x5b50]), (0x2f27, [0x5b80]), (0x2f28, [0x5bf8]), (0x2f29, [0x5c0f]),
    (0x2f2a, [0x5c22]), (0x2f2b, [0x5c38]), (0x2f2c, [0x5c6e]), (0x2f2d, [0x5c71]),
    (0x2f2e, [0x5ddb]), (0x2f2f, [0x5de5]), (0x2f30, [0x5df1]), (0x2f31, [0x5dfe]),
    (0x2f32, [0x5e72]), (0x2f33, [0x5e7a]), (0x2f34, [0x5e7f]), (0x2f35, [0x5ef4]),
    (0x2f36, [0x5efe]), (0x2f37, [0x5f0b]), (0x2f38, [0x5f13]), (0x2f39, [0x5f50]),
    (0x2f3a, [0x5f61]), (0x2f3b, [0x5f73]), (0x2f3c, [0x5fc3]), (0x2f3d, [0x6208]),
    (0x2f3e, [0x6236]), (0x2f3f, [0x624b]), (0x2f40, [0x652f]), (0x2f41, [0x6534]),
    (0x2f42, [0x6587]), (0x2f43, [0x6597]), (0x2f44, [0x65a4]), (0x2f45, [0x65b9]),
    (0x2f46, [0x65e0]), (0x2f47, [0x65e5]), (0x2f48, [0x66f0]), (0x2f49, [0x6708]),
    (0x2f4a, [0x6728]), (0x2f4b, [0x6b20]), (0x2f4c, [0x6b62]), (0x2f4d, [0x6b79]),
    (0x2f4e, [0x6bb3]), (0x2f4f, [0x6bcb]), (0x2f50, [0x6bd4]), (0x2f51, [0x6bdb]),
    (0x2f52, [0x6c0f]), (0x2f53, [0x6c14]), (0x2f54, [0x6c34]), (0x2f55, [0x706b]),
    (0x2f56, [0x722a]), (0x2f57, [0x7236]), (0x2f58, [0x723b]), (0x2f59, [0x723f]),
    (0x2f5a, [0x7247]), (0x2f5b, [0x7259]), (0x2f5c, [0x725b]), (0x2f5d, [0x72ac]),
    (0x2f5e, [0x7384]), (0x2f5f, [0x7389]), (0x2f60, [0x74dc]), (0x2f61, [0x74e6]),
    (0x2f62, [0x7518]), (0x2f63, [0x751f]), (0x2f64, [0x7528]), (0x2f65, [0x7530]),
    (0x2f66, [0x758b]), (0x2f67, [0x7592]), (0x2f68, [0x7676]), (0x2f69, [0x767d]),
    (0x2f6a, [0x76ae]), (0x2f6b, [0x76bf]), (0x2f6c, [0x76ee]), (0x2f6d, [0x77db]),
    (0x2f6e, [0x77e2]), (0x2f6f, [0x77f3]), (0x2f70, [0x793a]), (0x2f71, [0x79b8]),
    (0x2f72, [0x79be]), (0x2f73, [0x7a74]), (0x2f74, [0x7acb]), (0x2f75, [0x7af9]),
    (0x2f76, [0x7c73]), (0x2f77, [0x7cf8]), (0x2f78, [0x7f36]), (0x2f79, [0x7f51]),
    (0x2f7a, [0x7f8a]), (0x2f7b, [0x7fbd]), (0x2f7c, [0x8001]), (0x2f7d, [0x800c]),
    (0x2f7e, [0x8012]), (0x2f7f, [0x8033]), (0x2f80, [0x807f]), (0x2f81, [0x8089]),
    (0x2f82, [0x81e3]), (0x2f83, [0x81ea]), (0x2f84, [0x81f3]), (0x2f85, [0x81fc]),
    (0x2f86, [0x820c]), (0x2f87, [0x821b]), (0x2f88, [0x821f]), (0x2f89, [0x826e]),
    (0x2f8a, [0x8272]), (0x2f8b, [0x8278]), (0x2f8c, [0x864d]), (0x2f8d, [0x866b]),
    (0x2f8e, [0x8840]), (0x2f8f, [0x884c]), (0x2f90, [0x8863]), (0x2f91, [0x897e]),
    (0x2f92, [0x898b]), (0x2f93, [0x89d2]), (0x2f94, [0x8a00]), (0x2f95, [0x8c37]),
    (0x2f96, [0x8c46]), (0x2f97, [0x8c55]), (0x2f98, [0x8c78]), (0x2f99, [0x8c9d]),
    (0x2f9a, [0x8d64]), (0x2f9b, [0x8d70]), (0x2f9c, [0x8db3]), (0x2f9d, [0x8eab]),
    (0x2f9e, [0x8eca]), (0x2f9f, [0x8f9b]), (0x2fa0, [0x8fb0]), (0x2fa1, [0x8fb5]),
    (0x2fa2, [0x9091]), (0x2fa3, [0x9149]), (0x2fa4, [0x91c6]), (0x2fa5, [0x91cc]),
    (0x2fa6, [0x91d1]), (0x2fa7, [0x9577]), (0x2fa8, [0x9580]), (0x2fa9, [0x961c]),
    (0x2faa, [0x96b6]), (0x2fab, [0x96b9]), (0x2fac, [0x96e8]), (0x2fad, [0x9751]),
    (0x2fae, [0x975e]), (0x2faf, [0x9762]), (0x2fb0, [0x9769]), (0x2fb1, [0x97cb]),
    (0x2fb2, [0x97ed]), (0x2fb3, [0x97f3]), (0x2fb4, [0x9801]), (0x2fb5, [0x98a8]),
    (0x2fb6, [0x98db]), (0x2fb7, [0x98df]), (0x2fb8, [0x9996]), (0x2fb9, [0x9999]),
    (0x2fba, [0x99ac]), (0x2fbb, [0x9aa8]), (0x2fbc, [0x9ad8]), (0x2fbd, [0x9adf]),
    (0x2fbe, [0x9b25]), (0x2fbf, [0x9b2f]), (0x2fc0, [0x9b32]), (0x2fc1, [0x9b3c]),
    (0x2fc2, [0x9b5a]), (0x2fc3, [0x9ce5]), (0x2fc4, [0x9e75]), (0x2fc5, [0x9e7f]),
    (0x2fc6, [0x9ea5]), (0x2fc7, [0x9ebb]), (0x2fc8, [0x9ec3]), (0x2fc9, [0x9ecd]),
    (0x2fca, [0x9ed1]), (0x2fcb, [0x9ef9]), (0x2fcc, [0x9efd]), (0x2fcd, [0x9f0e]),
    (0x2fce, [0x9f13]), (0x2fcf, [0x9f20]), (0x2fd0, [0x9f3b]), (0x2fd1, [0x9f4a]),
    (0x2fd2, [0x9f52]), (0x2fd3, [0x9f8d]), (0x2fd4, [0x9f9c]), (0x2fd5, [0x9fa0]),
    (0x3000, [0x20]), (0x3002, [0x2e]), (0x3036, [0x3012]), (0x3038, [0x5341]),
    (0x309b, [0x20, 0x3099]), (0x309c, [0x20, 0x309a]), (0x309f, [0x3088, 0x308a]),
    (0x30ff, [0x30b3, 0x30c8]), (0x3134, [0x1102]), (0x3136, [0x11ad]), (0x3140, [0x111a]),
    (0x3144, [0x1121]), (0x3169, [0x11cc]), (0x316a, [0x11ce]), (0x316b, [0x11d3]),
    (0x316c, [0x11d7]), (0x316d, [0x11d9]), (0x316e, [0x111c]), (0x316f, [0x11dd]),
    (0x3170, [0x11df]), (0x3173, [0x1120]), (0x3176, [0x1127]), (0x3177, [0x1129]),
    (0x317d, [0x1132]), (0x317e, [0x1136]), (0x317f, [0x1140]), (0x3180, [0x1147]),
    (0x3181, [0x114c]), (0x3189, [0x1188]), (0x318c, [0x1194]), (0x318d, [0x119e]),
    (0x318e, [0x11a1]), (0x3192, [0x4e00]), (0x3193, [0x4e8c]), (0x3194, [0x4e09]),
    (0x3195, [0x56db]), (0x3196, [0x4e0a]), (0x3197, [0x4e2d]), (0x3198, [0x4e0b]),
    (0x3199, [0x7532]), (0x319a, [0x4e59]), (0x319b, [0x4e19]), (0x319c, [0x4e01]),
    (0x319d, [0x5929]), (0x319e, [0x5730]), (0x319f, [0x4eba])]

/-- Enclosed letters, and words in a square. -/
def mappedSquares : MappedTexts :=
  [(0x3200, [0x28, 0x1100, 0x29]), (0x3201, [0x28, 0x1102, 0x29]), (0x3202, [0x28, 0x1103, 0x29]),
    (0x3203, [0x28, 0x1105, 0x29]), (0x3204, [0x28, 0x1106, 0x29]), (0x3205, [0x28, 0x1107, 0x29]),
    (0x3206, [0x28, 0x1109, 0x29]), (0x3207, [0x28, 0x110b, 0x29]), (0x3208, [0x28, 0x110c, 0x29]),
    (0x3209, [0x28, 0x110e, 0x29]), (0x320a, [0x28, 0x110f, 0x29]), (0x320b, [0x28, 0x1110, 0x29]),
    (0x320c, [0x28, 0x1111, 0x29]), (0x320d, [0x28, 0x1112, 0x29]), (0x320e, [0x28, 0xac00, 0x29]),
    (0x320f, [0x28, 0xb098, 0x29]), (0x3210, [0x28, 0xb2e4, 0x29]), (0x3211, [0x28, 0xb77c, 0x29]),
    (0x3212, [0x28, 0xb9c8, 0x29]), (0x3213, [0x28, 0xbc14, 0x29]), (0x3214, [0x28, 0xc0ac, 0x29]),
    (0x3215, [0x28, 0xc544, 0x29]), (0x3216, [0x28, 0xc790, 0x29]), (0x3217, [0x28, 0xcc28, 0x29]),
    (0x3218, [0x28, 0xce74, 0x29]), (0x3219, [0x28, 0xd0c0, 0x29]), (0x321a, [0x28, 0xd30c, 0x29]),
    (0x321b, [0x28, 0xd558, 0x29]), (0x321c, [0x28, 0xc8fc, 0x29]),
    (0x321d, [0x28, 0xc624, 0xc804, 0x29]), (0x321e, [0x28, 0xc624, 0xd6c4, 0x29]),
    (0x3220, [0x28, 0x4e00, 0x29]), (0x3221, [0x28, 0x4e8c, 0x29]), (0x3222, [0x28, 0x4e09, 0x29]),
    (0x3223, [0x28, 0x56db, 0x29]), (0x3224, [0x28, 0x4e94, 0x29]), (0x3225, [0x28, 0x516d, 0x29]),
    (0x3226, [0x28, 0x4e03, 0x29]), (0x3227, [0x28, 0x516b, 0x29]), (0x3228, [0x28, 0x4e5d, 0x29]),
    (0x3229, [0x28, 0x5341, 0x29]), (0x322a, [0x28, 0x6708, 0x29]), (0x322b, [0x28, 0x706b, 0x29]),
    (0x322c, [0x28, 0x6c34, 0x29]), (0x322d, [0x28, 0x6728, 0x29]), (0x322e, [0x28, 0x91d1, 0x29]),
    (0x322f, [0x28, 0x571f, 0x29]), (0x3230, [0x28, 0x65e5, 0x29]), (0x3231, [0x28, 0x682a, 0x29]),
    (0x3232, [0x28, 0x6709, 0x29]), (0x3233, [0x28, 0x793e, 0x29]), (0x3234, [0x28, 0x540d, 0x29]),
    (0x3235, [0x28, 0x7279, 0x29]), (0x3236, [0x28, 0x8ca1, 0x29]), (0x3237, [0x28, 0x795d, 0x29]),
    (0x3238, [0x28, 0x52b4, 0x29]), (0x3239, [0x28, 0x4ee3, 0x29]), (0x323a, [0x28, 0x547c, 0x29]),
    (0x323b, [0x28, 0x5b66, 0x29]), (0x323c, [0x28, 0x76e3, 0x29]), (0x323d, [0x28, 0x4f01, 0x29]),
    (0x323e, [0x28, 0x8cc7, 0x29]), (0x323f, [0x28, 0x5354, 0x29]), (0x3240, [0x28, 0x796d, 0x29]),
    (0x3241, [0x28, 0x4f11, 0x29]), (0x3242, [0x28, 0x81ea, 0x29]), (0x3243, [0x28, 0x81f3, 0x29]),
    (0x3244, [0x554f]), (0x3245, [0x5e7c]), (0x3246, [0x6587]), (0x3247, [0x7b8f]),
    (0x3250, [0x70, 0x74, 0x65]), (0x3251, [0x32, 0x31]), (0x3252, [0x32, 0x32]),
    (0x3253, [0x32, 0x33]), (0x3254, [0x32, 0x34]), (0x3255, [0x32, 0x35]), (0x3256, [0x32, 0x36]),
    (0x3257, [0x32, 0x37]), (0x3258, [0x32, 0x38]), (0x3259, [0x32, 0x39]), (0x325a, [0x33, 0x30]),
    (0x325b, [0x33, 0x31]), (0x325c, [0x33, 0x32]), (0x325d, [0x33, 0x33]), (0x325e, [0x33, 0x34]),
    (0x325f, [0x33, 0x35]), (0x3260, [0x1100]), (0x3266, [0x1109]), (0x326e, [0xac00]),
    (0x326f, [0xb098]), (0x3270, [0xb2e4]), (0x3271, [0xb77c]), (0x3272, [0xb9c8]),
    (0x3273, [0xbc14]), (0x3274, [0xc0ac]), (0x3275, [0xc544]), (0x3276, [0xc790]),
    (0x3277, [0xcc28]), (0x3278, [0xce74]), (0x3279, [0xd0c0]), (0x327a, [0xd30c]),
    (0x327b, [0xd558]), (0x327c, [0xcc38, 0xace0]), (0x327d, [0xc8fc, 0xc758]), (0x327e, [0xc6b0]),
    (0x3280, [0x4e00]), (0x3281, [0x4e8c]), (0x3282, [0x4e09]), (0x3283, [0x56db]),
    (0x3284, [0x4e94]), (0x3285, [0x516d]), (0x3286, [0x4e03]), (0x3287, [0x516b]),
    (0x3288, [0x4e5d]), (0x3289, [0x5341]), (0x328a, [0x6708]), (0x328b, [0x706b]),
    (0x328c, [0x6c34]), (0x328d, [0x6728]), (0x328e, [0x91d1]), (0x328f, [0x571f]),
    (0x3290, [0x65e5]), (0x3291, [0x682a]), (0x3292, [0x6709]), (0x3293, [0x793e]),
    (0x3294, [0x540d]), (0x3295, [0x7279]), (0x3296, [0x8ca1]), (0x3297, [0x795d]),
    (0x3298, [0x52b4]), (0x3299, [0x79d8]), (0x329a, [0x7537]), (0x329b, [0x5973]),
    (0x329c, [0x9069]), (0x329d, [0x512a]), (0x329e, [0x5370]), (0x329f, [0x6ce8]),
    (0x32a0, [0x9805]), (0x32a1, [0x4f11]), (0x32a2, [0x5199]), (0x32a3, [0x6b63]),
    (0x32a4, [0x4e0a]), (0x32a5, [0x4e2d]), (0x32a6, [0x4e0b]), (0x32a7, [0x5de6]),
    (0x32a8, [0x53f3]), (0x32a9, [0x533b]), (0x32aa, [0x5b97]), (0x32ab, [0x5b66]),
    (0x32ac, [0x76e3]), (0x32ad, [0x4f01]), (0x32ae, [0x8cc7]), (0x32af, [0x5354]),
    (0x32b0, [0x591c]), (0x32b1, [0x33, 0x36]), (0x32b2, [0x33, 0x37]), (0x32b3, [0x33, 0x38]),
    (0x32b4, [0x33, 0x39]), (0x32b5, [0x34, 0x30]), (0x32b6, [0x34, 0x31]), (0x32b7, [0x34, 0x32]),
    (0x32b8, [0x34, 0x33]), (0x32b9, [0x34, 0x34]), (0x32ba, [0x34, 0x35]), (0x32bb, [0x34, 0x36]),
    (0x32bc, [0x34, 0x37]), (0x32bd, [0x34, 0x38]), (0x32be, [0x34, 0x39]), (0x32bf, [0x35, 0x30]),
    (0x32c0, [0x31, 0x6708]), (0x32c1, [0x32, 0x6708]), (0x32c2, [0x33, 0x6708]),
    (0x32c3, [0x34, 0x6708]), (0x32c4, [0x35, 0x6708]), (0x32c5, [0x36, 0x6708]),
    (0x32c6, [0x37, 0x6708]), (0x32c7, [0x38, 0x6708]), (0x32c8, [0x39, 0x6708]),
    (0x32c9, [0x31, 0x30, 0x6708]), (0x32ca, [0x31, 0x31, 0x6708]), (0x32cb, [0x31, 0x32, 0x6708]),
    (0x32cc, [0x68, 0x67]), (0x32cd, [0x65, 0x72, 0x67]), (0x32ce, [0x65, 0x76]),
    (0x32cf, [0x6c, 0x74, 0x64]), (0x32d0, [0x30a2]), (0x32d1, [0x30a4]), (0x32d2, [0x30a6]),
    (0x32d3, [0x30a8]), (0x32d6, [0x30ad]), (0x32d7, [0x30af]), (0x32d8, [0x30b1]),
    (0x32d9, [0x30b3]), (0x32da, [0x30b5]), (0x32db, [0x30b7]), (0x32dc, [0x30b9]),
    (0x32dd, [0x30bb]), (0x32de, [0x30bd]), (0x32df, [0x30bf]), (0x32e0, [0x30c1]),
    (0x32e1, [0x30c4]), (0x32e2, [0x30c6]), (0x32e3, [0x30c8]), (0x32ea, [0x30d2]),
    (0x32eb, [0x30d5]), (0x32ec, [0x30d8]), (0x32ed, [0x30db]), (0x32f3, [0x30e4]),
    (0x32f4, [0x30e6]), (0x32ff, [0x4ee4, 0x548c]), (0x3300, [0x30a2, 0x30d1, 0x30fc, 0x30c8]),
    (0x3301, [0x30a2, 0x30eb, 0x30d5, 0x30a1]), (0x3302, [0x30a2, 0x30f3, 0x30da, 0x30a2]),
    (0x3303, [0x30a2, 0x30fc, 0x30eb]), (0x3304, [0x30a4, 0x30cb, 0x30f3, 0x30b0]),
    (0x3305, [0x30a4, 0x30f3, 0x30c1]), (0x3306, [0x30a6, 0x30a9, 0x30f3]),
    (0x3307, [0x30a8, 0x30b9, 0x30af, 0x30fc, 0x30c9]), (0x3308, [0x30a8, 0x30fc, 0x30ab, 0x30fc]),
    (0x3309, [0x30aa, 0x30f3, 0x30b9]), (0x330a, [0x30aa, 0x30fc, 0x30e0]),
    (0x330b, [0x30ab, 0x30a4, 0x30ea]), (0x330c, [0x30ab, 0x30e9, 0x30c3, 0x30c8]),
    (0x330d, [0x30ab, 0x30ed, 0x30ea, 0x30fc]), (0x330e, [0x30ac, 0x30ed, 0x30f3]),
    (0x330f, [0x30ac, 0x30f3, 0x30de]), (0x3310, [0x30ae, 0x30ac]),
    (0x3311, [0x30ae, 0x30cb, 0x30fc]), (0x3312, [0x30ad, 0x30e5, 0x30ea, 0x30fc]),
    (0x3313, [0x30ae, 0x30eb, 0x30c0, 0x30fc]), (0x3314, [0x30ad, 0x30ed]),
    (0x3315, [0x30ad, 0x30ed, 0x30b0, 0x30e9, 0x30e0]),
    (0x3316, [0x30ad, 0x30ed, 0x30e1, 0x30fc, 0x30c8, 0x30eb]),
    (0x3317, [0x30ad, 0x30ed, 0x30ef, 0x30c3, 0x30c8]), (0x3318, [0x30b0, 0x30e9, 0x30e0]),
    (0x3319, [0x30b0, 0x30e9, 0x30e0, 0x30c8, 0x30f3]),
    (0x331a, [0x30af, 0x30eb, 0x30bc, 0x30a4, 0x30ed]), (0x331b, [0x30af, 0x30ed, 0x30fc, 0x30cd]),
    (0x331c, [0x30b1, 0x30fc, 0x30b9]), (0x331d, [0x30b3, 0x30eb, 0x30ca]),
    (0x331e, [0x30b3, 0x30fc, 0x30dd]), (0x331f, [0x30b5, 0x30a4, 0x30af, 0x30eb]),
    (0x3320, [0x30b5, 0x30f3, 0x30c1, 0x30fc, 0x30e0]), (0x3321, [0x30b7, 0x30ea, 0x30f3, 0x30b0]),
    (0x3322, [0x30bb, 0x30f3, 0x30c1]), (0x3323, [0x30bb, 0x30f3, 0x30c8]),
    (0x3324, [0x30c0, 0x30fc, 0x30b9]), (0x3325, [0x30c7, 0x30b7]), (0x3326, [0x30c9, 0x30eb]),
    (0x3327, [0x30c8, 0x30f3]), (0x3328, [0x30ca, 0x30ce]), (0x3329, [0x30ce, 0x30c3, 0x30c8]),
    (0x332a, [0x30cf, 0x30a4, 0x30c4]), (0x332b, [0x30d1, 0x30fc, 0x30bb, 0x30f3, 0x30c8]),
    (0x332c, [0x30d1, 0x30fc, 0x30c4]), (0x332d, [0x30d0, 0x30fc, 0x30ec, 0x30eb]),
    (0x332e, [0x30d4, 0x30a2, 0x30b9, 0x30c8, 0x30eb]), (0x332f, [0x30d4, 0x30af, 0x30eb]),
    (0x3330, [0x30d4, 0x30b3]), (0x3331, [0x30d3, 0x30eb]),
    (0x3332, [0x30d5, 0x30a1, 0x30e9, 0x30c3, 0x30c9]), (0x3333, [0x30d5, 0x30a3, 0x30fc, 0x30c8]),
    (0x3334, [0x30d6, 0x30c3, 0x30b7, 0x30a7, 0x30eb]), (0x3335, [0x30d5, 0x30e9, 0x30f3]),
    (0x3336, [0x30d8, 0x30af, 0x30bf, 0x30fc, 0x30eb]), (0x3337, [0x30da, 0x30bd]),
    (0x3338, [0x30da, 0x30cb, 0x30d2]), (0x3339, [0x30d8, 0x30eb, 0x30c4]),
    (0x333a, [0x30da, 0x30f3, 0x30b9]), (0x333b, [0x30da, 0x30fc, 0x30b8]),
    (0x333c, [0x30d9, 0x30fc, 0x30bf]), (0x333d, [0x30dd, 0x30a4, 0x30f3, 0x30c8]),
    (0x333e, [0x30dc, 0x30eb, 0x30c8]), (0x333f, [0x30db, 0x30f3]),
    (0x3340, [0x30dd, 0x30f3, 0x30c9]), (0x3341, [0x30db, 0x30fc, 0x30eb]),
    (0x3342, [0x30db, 0x30fc, 0x30f3]), (0x3343, [0x30de, 0x30a4, 0x30af, 0x30ed]),
    (0x3344, [0x30de, 0x30a4, 0x30eb]), (0x3345, [0x30de, 0x30c3, 0x30cf]),
    (0x3346, [0x30de, 0x30eb, 0x30af]), (0x3347, [0x30de, 0x30f3, 0x30b7, 0x30e7, 0x30f3]),
    (0x3348, [0x30df, 0x30af, 0x30ed, 0x30f3]), (0x3349, [0x30df, 0x30ea]),
    (0x334a, [0x30df, 0x30ea, 0x30d0, 0x30fc, 0x30eb]), (0x334b, [0x30e1, 0x30ac]),
    (0x334c, [0x30e1, 0x30ac, 0x30c8, 0x30f3]), (0x334d, [0x30e1, 0x30fc, 0x30c8, 0x30eb]),
    (0x334e, [0x30e4, 0x30fc, 0x30c9]), (0x334f, [0x30e4, 0x30fc, 0x30eb]),
    (0x3350, [0x30e6, 0x30a2, 0x30f3]), (0x3351, [0x30ea, 0x30c3, 0x30c8, 0x30eb]),
    (0x3352, [0x30ea, 0x30e9]), (0x3353, [0x30eb, 0x30d4, 0x30fc]),
    (0x3354, [0x30eb, 0x30fc, 0x30d6, 0x30eb]), (0x3355, [0x30ec, 0x30e0]),
    (0x3356, [0x30ec, 0x30f3, 0x30c8, 0x30b2, 0x30f3]), (0x3357, [0x30ef, 0x30c3, 0x30c8]),
    (0x3358, [0x30, 0x70b9]), (0x3359, [0x31, 0x70b9]), (0x335a, [0x32, 0x70b9]),
    (0x335b, [0x33, 0x70b9]), (0x335c, [0x34, 0x70b9]), (0x335d, [0x35, 0x70b9]),
    (0x335e, [0x36, 0x70b9]), (0x335f, [0x37, 0x70b9]), (0x3360, [0x38, 0x70b9]),
    (0x3361, [0x39, 0x70b9]), (0x3362, [0x31, 0x30, 0x70b9]), (0x3363, [0x31, 0x31, 0x70b9]),
    (0x3364, [0x31, 0x32, 0x70b9]), (0x3365, [0x31, 0x33, 0x70b9]), (0x3366, [0x31, 0x34, 0x70b9]),
    (0x3367, [0x31, 0x35, 0x70b9]), (0x3368, [0x31, 0x36, 0x70b9]), (0x3369, [0x31, 0x37, 0x70b9]),
    (0x336a, [0x31, 0x38, 0x70b9]), (0x336b, [0x31, 0x39, 0x70b9]), (0x336c, [0x32, 0x30, 0x70b9]),
    (0x336d, [0x32, 0x31, 0x70b9]), (0x336e, [0x32, 0x32, 0x70b9]), (0x336f, [0x32, 0x33, 0x70b9]),
    (0x3370, [0x32, 0x34, 0x70b9]), (0x3371, [0x68, 0x70, 0x61]), (0x3372, [0x64, 0x61]),
    (0x3373, [0x61, 0x75]), (0x3374, [0x62, 0x61, 0x72]), (0x3375, [0x6f, 0x76]),
    (0x3376, [0x70, 0x63]), (0x3377, [0x64, 0x6d]), (0x3378, [0x64, 0x6d, 0x32]),
    (0x3379, [0x64, 0x6d, 0x33]), (0x337a, [0x69, 0x75]), (0x337b, [0x5e73, 0x6210]),
    (0x337c, [0x662d, 0x548c]), (0x337d, [0x5927, 0x6b63]), (0x337e, [0x660e, 0x6cbb]),
    (0x337f, [0x682a, 0x5f0f, 0x4f1a, 0x793e]), (0x3380, [0x70, 0x61]), (0x3381, [0x6e, 0x61]),
    (0x3382, [0x3bc, 0x61]), (0x3383, [0x6d, 0x61]), (0x3384, [0x6b, 0x61]),
    (0x3385, [0x6b, 0x62]), (0x3386, [0x6d, 0x62]), (0x3387, [0x67, 0x62]),
    (0x3388, [0x63, 0x61, 0x6c]), (0x3389, [0x6b, 0x63, 0x61, 0x6c]), (0x338a, [0x70, 0x66]),
    (0x338b, [0x6e, 0x66]), (0x338c, [0x3bc, 0x66]), (0x338d, [0x3bc, 0x67]),
    (0x338e, [0x6d, 0x67]), (0x338f, [0x6b, 0x67]), (0x3390, [0x68, 0x7a]),
    (0x3391, [0x6b, 0x68, 0x7a]), (0x3392, [0x6d, 0x68, 0x7a]), (0x3393, [0x67, 0x68, 0x7a]),
    (0x3394, [0x74, 0x68, 0x7a]), (0x3395, [0x3bc, 0x6c]), (0x3396, [0x6d, 0x6c]),
    (0x3397, [0x64, 0x6c]), (0x3398, [0x6b, 0x6c]), (0x3399, [0x66, 0x6d]), (0x339a, [0x6e, 0x6d]),
    (0x339b, [0x3bc, 0x6d]), (0x339c, [0x6d, 0x6d]), (0x339d, [0x63, 0x6d]),
    (0x339e, [0x6b, 0x6d]), (0x339f, [0x6d, 0x6d, 0x32]), (0x33a0, [0x63, 0x6d, 0x32]),
    (0x33a1, [0x6d, 0x32]), (0x33a2, [0x6b, 0x6d, 0x32]), (0x33a3, [0x6d, 0x6d, 0x33]),
    (0x33a4, [0x63, 0x6d, 0x33]), (0x33a5, [0x6d, 0x33]), (0x33a6, [0x6b, 0x6d, 0x33]),
    (0x33a7, [0x6d, 0x2215, 0x73]), (0x33a8, [0x6d, 0x2215, 0x73, 0x32]), (0x33a9, [0x70, 0x61]),
    (0x33aa, [0x6b, 0x70, 0x61]), (0x33ab, [0x6d, 0x70, 0x61]), (0x33ac, [0x67, 0x70, 0x61]),
    (0x33ad, [0x72, 0x61, 0x64]), (0x33ae, [0x72, 0x61, 0x64, 0x2215, 0x73]),
    (0x33af, [0x72, 0x61, 0x64, 0x2215, 0x73, 0x32]), (0x33b0, [0x70, 0x73]),
    (0x33b1, [0x6e, 0x73]), (0x33b2, [0x3bc, 0x73]), (0x33b3, [0x6d, 0x73]),
    (0x33b4, [0x70, 0x76]), (0x33b5, [0x6e, 0x76]), (0x33b6, [0x3bc, 0x76]),
    (0x33b7, [0x6d, 0x76]), (0x33b8, [0x6b, 0x76]), (0x33b9, [0x6d, 0x76]), (0x33ba, [0x70, 0x77]),
    (0x33bb, [0x6e, 0x77]), (0x33bc, [0x3bc, 0x77]), (0x33bd, [0x6d, 0x77]),
    (0x33be, [0x6b, 0x77]), (0x33bf, [0x6d, 0x77]), (0x33c0, [0x6b, 0x3c9]),
    (0x33c1, [0x6d, 0x3c9]), (0x33c3, [0x62, 0x71]), (0x33c4, [0x63, 0x63]),
    (0x33c5, [0x63, 0x64]), (0x33c6, [0x63, 0x2215, 0x6b, 0x67]), (0x33c8, [0x64, 0x62]),
    (0x33c9, [0x67, 0x79]), (0x33ca, [0x68, 0x61]), (0x33cb, [0x68, 0x70]), (0x33cc, [0x69, 0x6e]),
    (0x33cd, [0x6b, 0x6b]), (0x33ce, [0x6b, 0x6d]), (0x33cf, [0x6b, 0x74]), (0x33d0, [0x6c, 0x6d]),
    (0x33d1, [0x6c, 0x6e]), (0x33d2, [0x6c, 0x6f, 0x67]), (0x33d3, [0x6c, 0x78]),
    (0x33d4, [0x6d, 0x62]), (0x33d5, [0x6d, 0x69, 0x6c]), (0x33d6, [0x6d, 0x6f, 0x6c]),
    (0x33d7, [0x70, 0x68]), (0x33d9, [0x70, 0x70, 0x6d]), (0x33da, [0x70, 0x72]),
    (0x33db, [0x73, 0x72]), (0x33dc, [0x73, 0x76]), (0x33dd, [0x77, 0x62]),
    (0x33de, [0x76, 0x2215, 0x6d]), (0x33df, [0x61, 0x2215, 0x6d]), (0x33e0, [0x31, 0x65e5]),
    (0x33e1, [0x32, 0x65e5]), (0x33e2, [0x33, 0x65e5]), (0x33e3, [0x34, 0x65e5]),
    (0x33e4, [0x35, 0x65e5]), (0x33e5, [0x36, 0x65e5]), (0x33e6, [0x37, 0x65e5]),
    (0x33e7, [0x38, 0x65e5]), (0x33e8, [0x39, 0x65e5]), (0x33e9, [0x31, 0x30, 0x65e5]),
    (0x33ea, [0x31, 0x31, 0x65e5]), (0x33eb, [0x31, 0x32, 0x65e5]), (0x33ec, [0x31, 0x33, 0x65e5]),
    (0x33ed, [0x31, 0x34, 0x65e5]), (0x33ee, [0x31, 0x35, 0x65e5]), (0x33ef, [0x31, 0x36, 0x65e5]),
    (0x33f0, [0x31, 0x37, 0x65e5]), (0x33f1, [0x31, 0x38, 0x65e5]), (0x33f2, [0x31, 0x39, 0x65e5]),
    (0x33f3, [0x32, 0x30, 0x65e5]), (0x33f4, [0x32, 0x31, 0x65e5]), (0x33f5, [0x32, 0x32, 0x65e5]),
    (0x33f6, [0x32, 0x33, 0x65e5]), (0x33f7, [0x32, 0x34, 0x65e5]), (0x33f8, [0x32, 0x35, 0x65e5]),
    (0x33f9, [0x32, 0x36, 0x65e5]), (0x33fa, [0x32, 0x37, 0x65e5]), (0x33fb, [0x32, 0x38, 0x65e5]),
    (0x33fc, [0x32, 0x39, 0x65e5]), (0x33fd, [0x33, 0x30, 0x65e5]), (0x33fe, [0x33, 0x31, 0x65e5]),
    (0x33ff, [0x67, 0x61, 0x6c])]

end HostDialing
