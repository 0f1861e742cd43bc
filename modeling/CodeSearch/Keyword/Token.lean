import CodeSearch.Text.Toggle

/-!
# 検索語

本文を検索語に切る。検索語は、文字と数字（一般カテゴリ L・N・Co）の続く限りの並びである。
下線は区切りになる。割り当てのない符号位置も文字とみなす。

* 大文字は小文字にする。
* ラテン文字のアクセントは外す。検索語の途中の結合文字は捨てる。

表は文字の属性を切替点と写像の列に直したもので、規則はここにはない。
-/

namespace CodeSearch.Keyword

open Text

/-- 検索語をなす文字の切替点。 -/
def tokenToggles : List Nat := [
  0x30, 0x3A, 0x41, 0x5B, 0x61, 0x7B, 0xAA, 0xAB, 0xB2, 0xB4, 0xB5, 0xB6, 0xB9, 0xBB, 0xBC,
  0xBF, 0xC0, 0xD7, 0xD8, 0xF7, 0xF8, 0x2C2, 0x2C6, 0x2D2, 0x2E0, 0x2E5, 0x2EC, 0x2ED, 0x2EE,
  0x2EF, 0x370, 0x375, 0x376, 0x37E, 0x37F, 0x384, 0x386, 0x387, 0x388, 0x3F6, 0x3F7, 0x482,
  0x48A, 0x55A, 0x560, 0x589, 0x58B, 0x58F, 0x590, 0x591, 0x5C8, 0x5F3, 0x5F5, 0x600, 0x605,
  0x606, 0x61C, 0x61E, 0x620, 0x64B, 0x660, 0x66A, 0x66E, 0x670, 0x671, 0x6D4, 0x6D5, 0x6D6,
  0x6E5, 0x6E7, 0x6EE, 0x6FD, 0x6FF, 0x700, 0x70E, 0x70F, 0x710, 0x711, 0x712, 0x730, 0x74B,
  0x7A6, 0x7B1, 0x7EB, 0x7F4, 0x7F6, 0x7FA, 0x816, 0x81A, 0x81B, 0x824, 0x825, 0x828, 0x829,
  0x82E, 0x830, 0x83F, 0x859, 0x85C, 0x85E, 0x85F, 0x8E4, 0x8FF, 0x900, 0x904, 0x93A, 0x93D,
  0x93E, 0x950, 0x951, 0x958, 0x962, 0x966, 0x970, 0x971, 0x981, 0x984, 0x9BC, 0x9BD, 0x9BE,
  0x9C5, 0x9C7, 0x9C9, 0x9CB, 0x9CE, 0x9D7, 0x9D8, 0x9E2, 0x9E4, 0x9F2, 0x9F4, 0x9FA, 0x9FC,
  0xA01, 0xA04, 0xA3C, 0xA3D, 0xA3E, 0xA43, 0xA47, 0xA49, 0xA4B, 0xA4E, 0xA51, 0xA52, 0xA70,
  0xA72, 0xA75, 0xA76, 0xA81, 0xA84, 0xABC, 0xABD, 0xABE, 0xAC6, 0xAC7, 0xACA, 0xACB, 0xACE,
  0xAE2, 0xAE4, 0xAF0, 0xAF2, 0xB01, 0xB04, 0xB3C, 0xB3D, 0xB3E, 0xB45, 0xB47, 0xB49, 0xB4B,
  0xB4E, 0xB56, 0xB58, 0xB62, 0xB64, 0xB70, 0xB71, 0xB82, 0xB83, 0xBBE, 0xBC3, 0xBC6, 0xBC9,
  0xBCA, 0xBCE, 0xBD7, 0xBD8, 0xBF3, 0xBFB, 0xC01, 0xC04, 0xC3E, 0xC45, 0xC46, 0xC49, 0xC4A,
  0xC4E, 0xC55, 0xC57, 0xC62, 0xC64, 0xC7F, 0xC80, 0xC82, 0xC84, 0xCBC, 0xCBD, 0xCBE, 0xCC5,
  0xCC6, 0xCC9, 0xCCA, 0xCCE, 0xCD5, 0xCD7, 0xCE2, 0xCE4, 0xD02, 0xD04, 0xD3E, 0xD45, 0xD46,
  0xD49, 0xD4A, 0xD4E, 0xD57, 0xD58, 0xD62, 0xD64, 0xD79, 0xD7A, 0xD82, 0xD84, 0xDCA, 0xDCB,
  0xDCF, 0xDD5, 0xDD6, 0xDD7, 0xDD8, 0xDE0, 0xDF2, 0xDF5, 0xE31, 0xE32, 0xE34, 0xE3B, 0xE3F,
  0xE40, 0xE47, 0xE50, 0xE5A, 0xE5C, 0xEB1, 0xEB2, 0xEB4, 0xEBA, 0xEBB, 0xEBD, 0xEC8, 0xECE,
  0xF01, 0xF20, 0xF34, 0xF40, 0xF71, 0xF88, 0xF8D, 0xF98, 0xF99, 0xFBD, 0xFBE, 0xFCD, 0xFCE,
  0xFDB, 0x102B, 0x103F, 0x104A, 0x1050, 0x1056, 0x105A, 0x105E, 0x1061, 0x1062, 0x1065,
  0x1067, 0x106E, 0x1071, 0x1075, 0x1082, 0x108E, 0x108F, 0x1090, 0x109A, 0x10A0, 0x10FB,
  0x10FC, 0x135D, 0x1369, 0x1390, 0x139A, 0x1400, 0x1401, 0x166D, 0x166F, 0x1680, 0x1681,
  0x169B, 0x169D, 0x16EB, 0x16EE, 0x1712, 0x1715, 0x1732, 0x1737, 0x1752, 0x1754, 0x1772,
  0x1774, 0x17B4, 0x17D7, 0x17D8, 0x17DC, 0x17DD, 0x17DE, 0x1800, 0x180F, 0x18A9, 0x18AA,
  0x1920, 0x192C, 0x1930, 0x193C, 0x1940, 0x1941, 0x1944, 0x1946, 0x19B0, 0x19C1, 0x19C8,
  0x19CA, 0x19DE, 0x1A00, 0x1A17, 0x1A1C, 0x1A1E, 0x1A20, 0x1A55, 0x1A5F, 0x1A60, 0x1A7D,
  0x1A7F, 0x1A80, 0x1AA0, 0x1AA7, 0x1AA8, 0x1AAE, 0x1B00, 0x1B05, 0x1B34, 0x1B45, 0x1B5A,
  0x1B7D, 0x1B80, 0x1B83, 0x1BA1, 0x1BAE, 0x1BE6, 0x1BF4, 0x1BFC, 0x1C00, 0x1C24, 0x1C38,
  0x1C3B, 0x1C40, 0x1C7E, 0x1C80, 0x1CC0, 0x1CC8, 0x1CD0, 0x1CE9, 0x1CED, 0x1CEE, 0x1CF2,
  0x1CF5, 0x1DC0, 0x1DE7, 0x1DFC, 0x1E00, 0x1FBD, 0x1FBE, 0x1FBF, 0x1FC2, 0x1FCD, 0x1FD0,
  0x1FDD, 0x1FE0, 0x1FED, 0x1FF0, 0x1FFD, 0x1FFF, 0x2000, 0x2065, 0x206A, 0x2070, 0x207A,
  0x207F, 0x208A, 0x208F, 0x20A0, 0x20BA, 0x20D0, 0x20F1, 0x2100, 0x2102, 0x2103, 0x2107,
  0x2108, 0x210A, 0x2114, 0x2115, 0x2116, 0x2119, 0x211E, 0x2124, 0x2125, 0x2126, 0x2127,
  0x2128, 0x2129, 0x212A, 0x212E, 0x212F, 0x213A, 0x213C, 0x2140, 0x2145, 0x214A, 0x214E,
  0x214F, 0x2150, 0x2190, 0x23F4, 0x2400, 0x2427, 0x2440, 0x244B, 0x249C, 0x24EA, 0x2500,
  0x2700, 0x2701, 0x2776, 0x2794, 0x2B4D, 0x2B50, 0x2B5A, 0x2CE5, 0x2CEB, 0x2CEF, 0x2CF2,
  0x2CF9, 0x2CFD, 0x2CFE, 0x2D00, 0x2D70, 0x2D71, 0x2D7F, 0x2D80, 0x2DE0, 0x2E2F, 0x2E30,
  0x2E3C, 0x2E80, 0x2E9A, 0x2E9B, 0x2EF4, 0x2F00, 0x2FD6, 0x2FF0, 0x2FFC, 0x3000, 0x3005,
  0x3008, 0x3021, 0x302A, 0x3031, 0x3036, 0x3038, 0x303D, 0x3040, 0x3099, 0x309D, 0x30A0,
  0x30A1, 0x30FB, 0x30FC, 0x3190, 0x3192, 0x3196, 0x31A0, 0x31C0, 0x31E4, 0x3200, 0x321F,
  0x322A, 0x3248, 0x3250, 0x3251, 0x3260, 0x3280, 0x328A, 0x32B1, 0x32C0, 0x32FF, 0x3300,
  0x3400, 0x4DC0, 0x4E00, 0xA490, 0xA4C7, 0xA4FE, 0xA500, 0xA60D, 0xA610, 0xA66F, 0xA67F,
  0xA69F, 0xA6A0, 0xA6F0, 0xA6F8, 0xA700, 0xA717, 0xA720, 0xA722, 0xA789, 0xA78B, 0xA802,
  0xA803, 0xA806, 0xA807, 0xA80B, 0xA80C, 0xA823, 0xA82C, 0xA836, 0xA83A, 0xA874, 0xA878,
  0xA880, 0xA882, 0xA8B4, 0xA8C5, 0xA8CE, 0xA8D0, 0xA8E0, 0xA8F2, 0xA8F8, 0xA8FB, 0xA926,
  0xA930, 0xA947, 0xA954, 0xA95F, 0xA960, 0xA980, 0xA984, 0xA9B3, 0xA9CE, 0xA9DE, 0xA9E0,
  0xAA29, 0xAA37, 0xAA43, 0xAA44, 0xAA4C, 0xAA4E, 0xAA5C, 0xAA60, 0xAA77, 0xAA7A, 0xAA7B,
  0xAA7C, 0xAAB0, 0xAAB1, 0xAAB2, 0xAAB5, 0xAAB7, 0xAAB9, 0xAABE, 0xAAC0, 0xAAC1, 0xAAC2,
  0xAADE, 0xAAE0, 0xAAEB, 0xAAF2, 0xAAF5, 0xAAF7, 0xABE3, 0xABEE, 0xFB1E, 0xFB1F, 0xFB29,
  0xFB2A, 0xFBB2, 0xFBC2, 0xFD3E, 0xFD40, 0xFDFC, 0xFDFE, 0xFE00, 0xFE1A, 0xFE20, 0xFE27,
  0xFE30, 0xFE53, 0xFE54, 0xFE67, 0xFE68, 0xFE6C, 0xFEFF, 0xFF00, 0xFF01, 0xFF10, 0xFF1A,
  0xFF21, 0xFF3B, 0xFF41, 0xFF5B, 0xFF66, 0xFFE0, 0xFFE7, 0xFFE8, 0xFFEF, 0xFFF9, 0x10000,
  0x10100, 0x10103, 0x10137, 0x10140, 0x10179, 0x1018A, 0x10190, 0x1019C, 0x101D0, 0x101FE,
  0x1039F, 0x103A0, 0x103D0, 0x103D1, 0x10857, 0x10858, 0x1091F, 0x10920, 0x1093F, 0x10940,
  0x10A01, 0x10A04, 0x10A05, 0x10A07, 0x10A0C, 0x10A10, 0x10A38, 0x10A3B, 0x10A3F, 0x10A40,
  0x10A50, 0x10A59, 0x10A7F, 0x10A80, 0x10B39, 0x10B40, 0x11000, 0x11003, 0x11038, 0x1104E,
  0x11080, 0x11083, 0x110B0, 0x110C2, 0x11100, 0x11103, 0x11127, 0x11135, 0x11140, 0x11144,
  0x11180, 0x11183, 0x111B3, 0x111C1, 0x111C5, 0x111C9, 0x116AB, 0x116B8, 0x12470, 0x12474,
  0x16F51, 0x16F7F, 0x16F8F, 0x16F93, 0x1D000, 0x1D0F6, 0x1D100, 0x1D127, 0x1D129, 0x1D1DE,
  0x1D200, 0x1D246, 0x1D300, 0x1D357, 0x1D6C1, 0x1D6C2, 0x1D6DB, 0x1D6DC, 0x1D6FB, 0x1D6FC,
  0x1D715, 0x1D716, 0x1D735, 0x1D736, 0x1D74F, 0x1D750, 0x1D76F, 0x1D770, 0x1D789, 0x1D78A,
  0x1D7A9, 0x1D7AA, 0x1D7C3, 0x1D7C4, 0x1EEF0, 0x1EEF2, 0x1F000, 0x1F02C, 0x1F030, 0x1F094,
  0x1F0A0, 0x1F0AF, 0x1F0B1, 0x1F0BF, 0x1F0C1, 0x1F0D0, 0x1F0D1, 0x1F0E0, 0x1F110, 0x1F12F,
  0x1F130, 0x1F16C, 0x1F170, 0x1F19B, 0x1F1E6, 0x1F203, 0x1F210, 0x1F23B, 0x1F240, 0x1F249,
  0x1F250, 0x1F252, 0x1F300, 0x1F321, 0x1F330, 0x1F336, 0x1F337, 0x1F37D, 0x1F380, 0x1F394,
  0x1F3A0, 0x1F3C5, 0x1F3C6, 0x1F3CB, 0x1F3E0, 0x1F3F1, 0x1F400, 0x1F43F, 0x1F440, 0x1F441,
  0x1F442, 0x1F4F8, 0x1F4F9, 0x1F4FD, 0x1F500, 0x1F53E, 0x1F540, 0x1F544, 0x1F550, 0x1F568,
  0x1F5FB, 0x1F641, 0x1F645, 0x1F650, 0x1F680, 0x1F6C6, 0x1F700, 0x1F774, 0xE0001, 0xE0002,
  0xE0020, 0xE0080, 0xE0100, 0xE01F0]

/-- 検索語の途中で捨てる結合文字。 -/
def droppedMarks : List Nat := [
  0x300, 0x301, 0x302, 0x303, 0x304, 0x306, 0x307, 0x308, 0x309, 0x30A, 0x30B, 0x30C, 0x30F,
  0x311, 0x31B, 0x323, 0x324, 0x325, 0x326, 0x327, 0x328, 0x32D, 0x32E, 0x330, 0x331]

/-- 小文字にしてアクセントを外す写像。 -/
def foldRuns : List ShiftRun := [
  ⟨0x41, 0x5A, 1, 32⟩, ⟨0xB5, 0xB5, 1, 775⟩, ⟨0xC0, 0xC0, 1, -95⟩, ⟨0xC1, 0xC1, 1, -96⟩,
  ⟨0xC2, 0xC2, 1, -97⟩, ⟨0xC3, 0xC3, 1, -98⟩, ⟨0xC4, 0xC4, 1, -99⟩, ⟨0xC5, 0xC5, 1, -100⟩,
  ⟨0xC6, 0xC6, 1, 32⟩, ⟨0xC7, 0xC7, 1, -100⟩, ⟨0xC8, 0xC8, 1, -99⟩, ⟨0xC9, 0xC9, 1, -100⟩,
  ⟨0xCA, 0xCA, 1, -101⟩, ⟨0xCB, 0xCB, 1, -102⟩, ⟨0xCC, 0xCC, 1, -99⟩, ⟨0xCD, 0xCD, 1, -100⟩,
  ⟨0xCE, 0xCE, 1, -101⟩, ⟨0xCF, 0xCF, 1, -102⟩, ⟨0xD0, 0xD0, 1, 32⟩, ⟨0xD1, 0xD2, 1, -99⟩,
  ⟨0xD3, 0xD3, 1, -100⟩, ⟨0xD4, 0xD4, 1, -101⟩, ⟨0xD5, 0xD5, 1, -102⟩, ⟨0xD6, 0xD6, 1, -103⟩,
  ⟨0xD8, 0xD8, 1, 32⟩, ⟨0xD9, 0xD9, 1, -100⟩, ⟨0xDA, 0xDA, 1, -101⟩, ⟨0xDB, 0xDB, 1, -102⟩,
  ⟨0xDC, 0xDC, 1, -103⟩, ⟨0xDD, 0xDD, 1, -100⟩, ⟨0xDE, 0xDE, 1, 32⟩, ⟨0xE0, 0xE0, 1, -127⟩,
  ⟨0xE1, 0xE1, 1, -128⟩, ⟨0xE2, 0xE2, 1, -129⟩, ⟨0xE3, 0xE3, 1, -130⟩, ⟨0xE4, 0xE4, 1, -131⟩,
  ⟨0xE5, 0xE7, 2, -132⟩, ⟨0xE8, 0xE8, 1, -131⟩, ⟨0xE9, 0xE9, 1, -132⟩, ⟨0xEA, 0xEA, 1, -133⟩,
  ⟨0xEB, 0xEB, 1, -134⟩, ⟨0xEC, 0xEC, 1, -131⟩, ⟨0xED, 0xED, 1, -132⟩, ⟨0xEE, 0xEE, 1, -133⟩,
  ⟨0xEF, 0xEF, 1, -134⟩, ⟨0xF1, 0xF2, 1, -131⟩, ⟨0xF3, 0xF3, 1, -132⟩, ⟨0xF4, 0xF4, 1, -133⟩,
  ⟨0xF5, 0xF5, 1, -134⟩, ⟨0xF6, 0xF6, 1, -135⟩, ⟨0xF9, 0xF9, 1, -132⟩, ⟨0xFA, 0xFA, 1, -133⟩,
  ⟨0xFB, 0xFB, 1, -134⟩, ⟨0xFC, 0xFC, 1, -135⟩, ⟨0xFD, 0xFD, 1, -132⟩, ⟨0xFF, 0xFF, 1, -134⟩,
  ⟨0x100, 0x100, 1, -159⟩, ⟨0x101, 0x101, 1, -160⟩, ⟨0x102, 0x102, 1, -161⟩,
  ⟨0x103, 0x103, 1, -162⟩, ⟨0x104, 0x104, 1, -163⟩, ⟨0x105, 0x105, 1, -164⟩,
  ⟨0x106, 0x106, 1, -163⟩, ⟨0x107, 0x107, 1, -164⟩, ⟨0x108, 0x108, 1, -165⟩,
  ⟨0x109, 0x109, 1, -166⟩, ⟨0x10A, 0x10A, 1, -167⟩, ⟨0x10B, 0x10B, 1, -168⟩,
  ⟨0x10C, 0x10C, 1, -169⟩, ⟨0x10D, 0x10E, 1, -170⟩, ⟨0x10F, 0x10F, 1, -171⟩,
  ⟨0x110, 0x110, 1, 1⟩, ⟨0x112, 0x112, 1, -173⟩, ⟨0x113, 0x113, 1, -174⟩,
  ⟨0x114, 0x114, 1, -175⟩, ⟨0x115, 0x115, 1, -176⟩, ⟨0x116, 0x116, 1, -177⟩,
  ⟨0x117, 0x117, 1, -178⟩, ⟨0x118, 0x118, 1, -179⟩, ⟨0x119, 0x119, 1, -180⟩,
  ⟨0x11A, 0x11A, 1, -181⟩, ⟨0x11B, 0x11B, 1, -182⟩, ⟨0x11C, 0x11C, 1, -181⟩,
  ⟨0x11D, 0x11D, 1, -182⟩, ⟨0x11E, 0x11E, 1, -183⟩, ⟨0x11F, 0x11F, 1, -184⟩,
  ⟨0x120, 0x120, 1, -185⟩, ⟨0x121, 0x121, 1, -186⟩, ⟨0x122, 0x122, 1, -187⟩,
  ⟨0x123, 0x124, 1, -188⟩, ⟨0x125, 0x125, 1, -189⟩, ⟨0x126, 0x126, 1, 1⟩,
  ⟨0x128, 0x128, 1, -191⟩, ⟨0x129, 0x129, 1, -192⟩, ⟨0x12A, 0x12A, 1, -193⟩,
  ⟨0x12B, 0x12B, 1, -194⟩, ⟨0x12C, 0x12C, 1, -195⟩, ⟨0x12D, 0x12D, 1, -196⟩,
  ⟨0x12E, 0x12E, 1, -197⟩, ⟨0x12F, 0x12F, 1, -198⟩, ⟨0x130, 0x130, 1, -199⟩,
  ⟨0x132, 0x132, 1, 1⟩, ⟨0x134, 0x134, 1, -202⟩, ⟨0x135, 0x136, 1, -203⟩,
  ⟨0x137, 0x137, 1, -204⟩, ⟨0x139, 0x139, 1, -205⟩, ⟨0x13A, 0x13A, 1, -206⟩,
  ⟨0x13B, 0x13B, 1, -207⟩, ⟨0x13C, 0x13C, 1, -208⟩, ⟨0x13D, 0x13D, 1, -209⟩,
  ⟨0x13E, 0x13E, 1, -210⟩, ⟨0x13F, 0x141, 2, 1⟩, ⟨0x143, 0x143, 1, -213⟩,
  ⟨0x144, 0x144, 1, -214⟩, ⟨0x145, 0x145, 1, -215⟩, ⟨0x146, 0x146, 1, -216⟩,
  ⟨0x147, 0x147, 1, -217⟩, ⟨0x148, 0x148, 1, -218⟩, ⟨0x14A, 0x14A, 1, 1⟩,
  ⟨0x14C, 0x14C, 1, -221⟩, ⟨0x14D, 0x14D, 1, -222⟩, ⟨0x14E, 0x14E, 1, -223⟩,
  ⟨0x14F, 0x14F, 1, -224⟩, ⟨0x150, 0x150, 1, -225⟩, ⟨0x151, 0x151, 1, -226⟩,
  ⟨0x152, 0x152, 1, 1⟩, ⟨0x154, 0x154, 1, -226⟩, ⟨0x155, 0x155, 1, -227⟩,
  ⟨0x156, 0x156, 1, -228⟩, ⟨0x157, 0x157, 1, -229⟩, ⟨0x158, 0x158, 1, -230⟩,
  ⟨0x159, 0x15A, 1, -231⟩, ⟨0x15B, 0x15B, 1, -232⟩, ⟨0x15C, 0x15C, 1, -233⟩,
  ⟨0x15D, 0x15D, 1, -234⟩, ⟨0x15E, 0x15E, 1, -235⟩, ⟨0x15F, 0x15F, 1, -236⟩,
  ⟨0x160, 0x160, 1, -237⟩, ⟨0x161, 0x162, 1, -238⟩, ⟨0x163, 0x163, 1, -239⟩,
  ⟨0x164, 0x164, 1, -240⟩, ⟨0x165, 0x165, 1, -241⟩, ⟨0x166, 0x166, 1, 1⟩,
  ⟨0x168, 0x168, 1, -243⟩, ⟨0x169, 0x169, 1, -244⟩, ⟨0x16A, 0x16A, 1, -245⟩,
  ⟨0x16B, 0x16B, 1, -246⟩, ⟨0x16C, 0x16C, 1, -247⟩, ⟨0x16D, 0x16D, 1, -248⟩,
  ⟨0x16E, 0x16E, 1, -249⟩, ⟨0x16F, 0x16F, 1, -250⟩, ⟨0x170, 0x170, 1, -251⟩,
  ⟨0x171, 0x171, 1, -252⟩, ⟨0x172, 0x172, 1, -253⟩, ⟨0x173, 0x173, 1, -254⟩,
  ⟨0x174, 0x174, 1, -253⟩, ⟨0x175, 0x175, 1, -254⟩, ⟨0x176, 0x176, 1, -253⟩,
  ⟨0x177, 0x177, 1, -254⟩, ⟨0x178, 0x179, 1, -255⟩, ⟨0x17A, 0x17A, 1, -256⟩,
  ⟨0x17B, 0x17B, 1, -257⟩, ⟨0x17C, 0x17C, 1, -258⟩, ⟨0x17D, 0x17D, 1, -259⟩,
  ⟨0x17E, 0x17E, 1, -260⟩, ⟨0x17F, 0x17F, 1, -268⟩, ⟨0x181, 0x181, 1, 210⟩,
  ⟨0x182, 0x184, 2, 1⟩, ⟨0x186, 0x186, 1, 206⟩, ⟨0x187, 0x187, 1, 1⟩, ⟨0x189, 0x18A, 1, 205⟩,
  ⟨0x18B, 0x18B, 1, 1⟩, ⟨0x18E, 0x18E, 1, 79⟩, ⟨0x18F, 0x18F, 1, 202⟩, ⟨0x190, 0x190, 1, 203⟩,
  ⟨0x191, 0x191, 1, 1⟩, ⟨0x193, 0x193, 1, 205⟩, ⟨0x194, 0x194, 1, 207⟩, ⟨0x196, 0x196, 1, 211⟩,
  ⟨0x197, 0x197, 1, 209⟩, ⟨0x198, 0x198, 1, 1⟩, ⟨0x19C, 0x19C, 1, 211⟩, ⟨0x19D, 0x19D, 1, 213⟩,
  ⟨0x19F, 0x19F, 1, 214⟩, ⟨0x1A0, 0x1A0, 1, -305⟩, ⟨0x1A1, 0x1A1, 1, -306⟩,
  ⟨0x1A2, 0x1A4, 2, 1⟩, ⟨0x1A6, 0x1A6, 1, 218⟩, ⟨0x1A7, 0x1A7, 1, 1⟩, ⟨0x1A9, 0x1A9, 1, 218⟩,
  ⟨0x1AC, 0x1AC, 1, 1⟩, ⟨0x1AE, 0x1AE, 1, 218⟩, ⟨0x1AF, 0x1AF, 1, -314⟩,
  ⟨0x1B0, 0x1B0, 1, -315⟩, ⟨0x1B1, 0x1B2, 1, 217⟩, ⟨0x1B3, 0x1B5, 2, 1⟩,
  ⟨0x1B7, 0x1B7, 1, 219⟩, ⟨0x1B8, 0x1B8, 1, 1⟩, ⟨0x1BC, 0x1BC, 1, 1⟩, ⟨0x1C4, 0x1C4, 1, 2⟩,
  ⟨0x1C5, 0x1C5, 1, 1⟩, ⟨0x1C7, 0x1C7, 1, 2⟩, ⟨0x1C8, 0x1C8, 1, 1⟩, ⟨0x1CA, 0x1CA, 1, 2⟩,
  ⟨0x1CB, 0x1CB, 1, 1⟩, ⟨0x1CD, 0x1CD, 1, -364⟩, ⟨0x1CE, 0x1CE, 1, -365⟩,
  ⟨0x1CF, 0x1CF, 1, -358⟩, ⟨0x1D0, 0x1D0, 1, -359⟩, ⟨0x1D1, 0x1D1, 1, -354⟩,
  ⟨0x1D2, 0x1D2, 1, -355⟩, ⟨0x1D3, 0x1D3, 1, -350⟩, ⟨0x1D4, 0x1D4, 1, -351⟩,
  ⟨0x1D5, 0x1DB, 2, 1⟩, ⟨0x1DE, 0x1E4, 2, 1⟩, ⟨0x1E6, 0x1E6, 1, -383⟩, ⟨0x1E7, 0x1E7, 1, -384⟩,
  ⟨0x1E8, 0x1E8, 1, -381⟩, ⟨0x1E9, 0x1E9, 1, -382⟩, ⟨0x1EA, 0x1EA, 1, -379⟩,
  ⟨0x1EB, 0x1EB, 1, -380⟩, ⟨0x1EC, 0x1EE, 2, 1⟩, ⟨0x1F0, 0x1F0, 1, -390⟩, ⟨0x1F1, 0x1F1, 1, 2⟩,
  ⟨0x1F2, 0x1F2, 1, 1⟩, ⟨0x1F4, 0x1F4, 1, -397⟩, ⟨0x1F5, 0x1F5, 1, -398⟩,
  ⟨0x1F6, 0x1F6, 1, -97⟩, ⟨0x1F7, 0x1F7, 1, -56⟩, ⟨0x1F8, 0x1F8, 1, -394⟩,
  ⟨0x1F9, 0x1F9, 1, -395⟩, ⟨0x1FA, 0x1FE, 2, 1⟩, ⟨0x200, 0x200, 1, -415⟩,
  ⟨0x201, 0x201, 1, -416⟩, ⟨0x202, 0x202, 1, -417⟩, ⟨0x203, 0x203, 1, -418⟩,
  ⟨0x204, 0x204, 1, -415⟩, ⟨0x205, 0x205, 1, -416⟩, ⟨0x206, 0x206, 1, -417⟩,
  ⟨0x207, 0x207, 1, -418⟩, ⟨0x208, 0x208, 1, -415⟩, ⟨0x209, 0x209, 1, -416⟩,
  ⟨0x20A, 0x20A, 1, -417⟩, ⟨0x20B, 0x20B, 1, -418⟩, ⟨0x20C, 0x20C, 1, -413⟩,
  ⟨0x20D, 0x20D, 1, -414⟩, ⟨0x20E, 0x20E, 1, -415⟩, ⟨0x20F, 0x20F, 1, -416⟩,
  ⟨0x210, 0x210, 1, -414⟩, ⟨0x211, 0x211, 1, -415⟩, ⟨0x212, 0x212, 1, -416⟩,
  ⟨0x213, 0x213, 1, -417⟩, ⟨0x214, 0x214, 1, -415⟩, ⟨0x215, 0x215, 1, -416⟩,
  ⟨0x216, 0x216, 1, -417⟩, ⟨0x217, 0x217, 1, -418⟩, ⟨0x218, 0x218, 1, -421⟩,
  ⟨0x219, 0x21A, 1, -422⟩, ⟨0x21B, 0x21B, 1, -423⟩, ⟨0x21C, 0x21C, 1, 1⟩,
  ⟨0x21E, 0x21E, 1, -438⟩, ⟨0x21F, 0x21F, 1, -439⟩, ⟨0x220, 0x220, 1, -130⟩,
  ⟨0x222, 0x224, 2, 1⟩, ⟨0x226, 0x226, 1, -453⟩, ⟨0x227, 0x227, 1, -454⟩,
  ⟨0x228, 0x228, 1, -451⟩, ⟨0x229, 0x229, 1, -452⟩, ⟨0x22A, 0x22C, 2, 1⟩,
  ⟨0x22E, 0x22E, 1, -447⟩, ⟨0x22F, 0x22F, 1, -448⟩, ⟨0x230, 0x230, 1, 1⟩,
  ⟨0x232, 0x232, 1, -441⟩, ⟨0x233, 0x233, 1, -442⟩, ⟨0x23A, 0x23A, 1, 10795⟩,
  ⟨0x23B, 0x23B, 1, 1⟩, ⟨0x23D, 0x23D, 1, -163⟩, ⟨0x23E, 0x23E, 1, 10792⟩,
  ⟨0x241, 0x241, 1, 1⟩, ⟨0x243, 0x243, 1, -195⟩, ⟨0x244, 0x244, 1, 69⟩, ⟨0x245, 0x245, 1, 71⟩,
  ⟨0x246, 0x24E, 2, 1⟩, ⟨0x370, 0x372, 2, 1⟩, ⟨0x376, 0x376, 1, 1⟩, ⟨0x386, 0x386, 1, 38⟩,
  ⟨0x388, 0x38A, 1, 37⟩, ⟨0x38C, 0x38C, 1, 64⟩, ⟨0x38E, 0x38F, 1, 63⟩, ⟨0x391, 0x3A1, 1, 32⟩,
  ⟨0x3A3, 0x3AB, 1, 32⟩, ⟨0x3C2, 0x3C2, 1, 1⟩, ⟨0x3CF, 0x3CF, 1, 8⟩, ⟨0x3D0, 0x3D0, 1, -30⟩,
  ⟨0x3D1, 0x3D1, 1, -25⟩, ⟨0x3D5, 0x3D5, 1, -15⟩, ⟨0x3D6, 0x3D6, 1, -22⟩, ⟨0x3D8, 0x3EE, 2, 1⟩,
  ⟨0x3F0, 0x3F0, 1, -54⟩, ⟨0x3F1, 0x3F1, 1, -48⟩, ⟨0x3F4, 0x3F4, 1, -60⟩,
  ⟨0x3F5, 0x3F5, 1, -64⟩, ⟨0x3F7, 0x3F7, 1, 1⟩, ⟨0x3F9, 0x3F9, 1, -7⟩, ⟨0x3FA, 0x3FA, 1, 1⟩,
  ⟨0x3FD, 0x3FF, 1, -130⟩, ⟨0x400, 0x40F, 1, 80⟩, ⟨0x410, 0x42F, 1, 32⟩, ⟨0x460, 0x480, 2, 1⟩,
  ⟨0x48A, 0x4BE, 2, 1⟩, ⟨0x4C0, 0x4C0, 1, 15⟩, ⟨0x4C1, 0x4CD, 2, 1⟩, ⟨0x4D0, 0x526, 2, 1⟩,
  ⟨0x531, 0x556, 1, 48⟩, ⟨0x10A0, 0x10C5, 1, 7264⟩, ⟨0x10C7, 0x10C7, 1, 7264⟩,
  ⟨0x10CD, 0x10CD, 1, 7264⟩, ⟨0x1E00, 0x1E00, 1, -7583⟩, ⟨0x1E01, 0x1E02, 1, -7584⟩,
  ⟨0x1E03, 0x1E03, 1, -7585⟩, ⟨0x1E04, 0x1E04, 1, -7586⟩, ⟨0x1E05, 0x1E05, 1, -7587⟩,
  ⟨0x1E06, 0x1E06, 1, -7588⟩, ⟨0x1E07, 0x1E07, 1, -7589⟩, ⟨0x1E08, 0x1E08, 1, 1⟩,
  ⟨0x1E0A, 0x1E0A, 1, -7590⟩, ⟨0x1E0B, 0x1E0B, 1, -7591⟩, ⟨0x1E0C, 0x1E0C, 1, -7592⟩,
  ⟨0x1E0D, 0x1E0D, 1, -7593⟩, ⟨0x1E0E, 0x1E0E, 1, -7594⟩, ⟨0x1E0F, 0x1E0F, 1, -7595⟩,
  ⟨0x1E10, 0x1E10, 1, -7596⟩, ⟨0x1E11, 0x1E11, 1, -7597⟩, ⟨0x1E12, 0x1E12, 1, -7598⟩,
  ⟨0x1E13, 0x1E13, 1, -7599⟩, ⟨0x1E14, 0x1E16, 2, 1⟩, ⟨0x1E18, 0x1E18, 1, -7603⟩,
  ⟨0x1E19, 0x1E19, 1, -7604⟩, ⟨0x1E1A, 0x1E1A, 1, -7605⟩, ⟨0x1E1B, 0x1E1B, 1, -7606⟩,
  ⟨0x1E1C, 0x1E1C, 1, 1⟩, ⟨0x1E1E, 0x1E1E, 1, -7608⟩, ⟨0x1E1F, 0x1E20, 1, -7609⟩,
  ⟨0x1E21, 0x1E22, 1, -7610⟩, ⟨0x1E23, 0x1E23, 1, -7611⟩, ⟨0x1E24, 0x1E24, 1, -7612⟩,
  ⟨0x1E25, 0x1E25, 1, -7613⟩, ⟨0x1E26, 0x1E26, 1, -7614⟩, ⟨0x1E27, 0x1E27, 1, -7615⟩,
  ⟨0x1E28, 0x1E28, 1, -7616⟩, ⟨0x1E29, 0x1E29, 1, -7617⟩, ⟨0x1E2A, 0x1E2A, 1, -7618⟩,
  ⟨0x1E2B, 0x1E2C, 1, -7619⟩, ⟨0x1E2D, 0x1E2D, 1, -7620⟩, ⟨0x1E2E, 0x1E2E, 1, 1⟩,
  ⟨0x1E30, 0x1E30, 1, -7621⟩, ⟨0x1E31, 0x1E31, 1, -7622⟩, ⟨0x1E32, 0x1E32, 1, -7623⟩,
  ⟨0x1E33, 0x1E33, 1, -7624⟩, ⟨0x1E34, 0x1E34, 1, -7625⟩, ⟨0x1E35, 0x1E36, 1, -7626⟩,
  ⟨0x1E37, 0x1E37, 1, -7627⟩, ⟨0x1E38, 0x1E38, 1, 1⟩, ⟨0x1E3A, 0x1E3A, 1, -7630⟩,
  ⟨0x1E3B, 0x1E3B, 1, -7631⟩, ⟨0x1E3C, 0x1E3C, 1, -7632⟩, ⟨0x1E3D, 0x1E3E, 1, -7633⟩,
  ⟨0x1E3F, 0x1E3F, 1, -7634⟩, ⟨0x1E40, 0x1E40, 1, -7635⟩, ⟨0x1E41, 0x1E41, 1, -7636⟩,
  ⟨0x1E42, 0x1E42, 1, -7637⟩, ⟨0x1E43, 0x1E44, 1, -7638⟩, ⟨0x1E45, 0x1E45, 1, -7639⟩,
  ⟨0x1E46, 0x1E46, 1, -7640⟩, ⟨0x1E47, 0x1E47, 1, -7641⟩, ⟨0x1E48, 0x1E48, 1, -7642⟩,
  ⟨0x1E49, 0x1E49, 1, -7643⟩, ⟨0x1E4A, 0x1E4A, 1, -7644⟩, ⟨0x1E4B, 0x1E4B, 1, -7645⟩,
  ⟨0x1E4C, 0x1E52, 2, 1⟩, ⟨0x1E54, 0x1E54, 1, -7652⟩, ⟨0x1E55, 0x1E55, 1, -7653⟩,
  ⟨0x1E56, 0x1E56, 1, -7654⟩, ⟨0x1E57, 0x1E57, 1, -7655⟩, ⟨0x1E58, 0x1E58, 1, -7654⟩,
  ⟨0x1E59, 0x1E59, 1, -7655⟩, ⟨0x1E5A, 0x1E5A, 1, -7656⟩, ⟨0x1E5B, 0x1E5B, 1, -7657⟩,
  ⟨0x1E5C, 0x1E5C, 1, 1⟩, ⟨0x1E5E, 0x1E5E, 1, -7660⟩, ⟨0x1E5F, 0x1E60, 1, -7661⟩,
  ⟨0x1E61, 0x1E61, 1, -7662⟩, ⟨0x1E62, 0x1E62, 1, -7663⟩, ⟨0x1E63, 0x1E63, 1, -7664⟩,
  ⟨0x1E64, 0x1E68, 2, 1⟩, ⟨0x1E6A, 0x1E6A, 1, -7670⟩, ⟨0x1E6B, 0x1E6B, 1, -7671⟩,
  ⟨0x1E6C, 0x1E6C, 1, -7672⟩, ⟨0x1E6D, 0x1E6D, 1, -7673⟩, ⟨0x1E6E, 0x1E6E, 1, -7674⟩,
  ⟨0x1E6F, 0x1E6F, 1, -7675⟩, ⟨0x1E70, 0x1E70, 1, -7676⟩, ⟨0x1E71, 0x1E72, 1, -7677⟩,
  ⟨0x1E73, 0x1E73, 1, -7678⟩, ⟨0x1E74, 0x1E74, 1, -7679⟩, ⟨0x1E75, 0x1E75, 1, -7680⟩,
  ⟨0x1E76, 0x1E76, 1, -7681⟩, ⟨0x1E77, 0x1E77, 1, -7682⟩, ⟨0x1E78, 0x1E7A, 2, 1⟩,
  ⟨0x1E7C, 0x1E7C, 1, -7686⟩, ⟨0x1E7D, 0x1E7D, 1, -7687⟩, ⟨0x1E7E, 0x1E7E, 1, -7688⟩,
  ⟨0x1E7F, 0x1E80, 1, -7689⟩, ⟨0x1E81, 0x1E81, 1, -7690⟩, ⟨0x1E82, 0x1E82, 1, -7691⟩,
  ⟨0x1E83, 0x1E83, 1, -7692⟩, ⟨0x1E84, 0x1E84, 1, -7693⟩, ⟨0x1E85, 0x1E85, 1, -7694⟩,
  ⟨0x1E86, 0x1E86, 1, -7695⟩, ⟨0x1E87, 0x1E87, 1, -7696⟩, ⟨0x1E88, 0x1E88, 1, -7697⟩,
  ⟨0x1E89, 0x1E8A, 1, -7698⟩, ⟨0x1E8B, 0x1E8B, 1, -7699⟩, ⟨0x1E8C, 0x1E8C, 1, -7700⟩,
  ⟨0x1E8D, 0x1E8E, 1, -7701⟩, ⟨0x1E8F, 0x1E90, 1, -7702⟩, ⟨0x1E91, 0x1E91, 1, -7703⟩,
  ⟨0x1E92, 0x1E92, 1, -7704⟩, ⟨0x1E93, 0x1E93, 1, -7705⟩, ⟨0x1E94, 0x1E94, 1, -7706⟩,
  ⟨0x1E95, 0x1E95, 1, -7707⟩, ⟨0x1E96, 0x1E96, 1, -7726⟩, ⟨0x1E97, 0x1E97, 1, -7715⟩,
  ⟨0x1E98, 0x1E98, 1, -7713⟩, ⟨0x1E99, 0x1E99, 1, -7712⟩, ⟨0x1E9B, 0x1E9B, 1, -7720⟩,
  ⟨0x1E9E, 0x1E9E, 1, -7615⟩, ⟨0x1EA0, 0x1EA0, 1, -7743⟩, ⟨0x1EA1, 0x1EA1, 1, -7744⟩,
  ⟨0x1EA2, 0x1EA2, 1, -7745⟩, ⟨0x1EA3, 0x1EA3, 1, -7746⟩, ⟨0x1EA4, 0x1EB6, 2, 1⟩,
  ⟨0x1EB8, 0x1EB8, 1, -7763⟩, ⟨0x1EB9, 0x1EB9, 1, -7764⟩, ⟨0x1EBA, 0x1EBA, 1, -7765⟩,
  ⟨0x1EBB, 0x1EBB, 1, -7766⟩, ⟨0x1EBC, 0x1EBC, 1, -7767⟩, ⟨0x1EBD, 0x1EBD, 1, -7768⟩,
  ⟨0x1EBE, 0x1EC6, 2, 1⟩, ⟨0x1EC8, 0x1EC8, 1, -7775⟩, ⟨0x1EC9, 0x1EC9, 1, -7776⟩,
  ⟨0x1ECA, 0x1ECA, 1, -7777⟩, ⟨0x1ECB, 0x1ECB, 1, -7778⟩, ⟨0x1ECC, 0x1ECC, 1, -7773⟩,
  ⟨0x1ECD, 0x1ECD, 1, -7774⟩, ⟨0x1ECE, 0x1ECE, 1, -7775⟩, ⟨0x1ECF, 0x1ECF, 1, -7776⟩,
  ⟨0x1ED0, 0x1EE2, 2, 1⟩, ⟨0x1EE4, 0x1EE4, 1, -7791⟩, ⟨0x1EE5, 0x1EE5, 1, -7792⟩,
  ⟨0x1EE6, 0x1EE6, 1, -7793⟩, ⟨0x1EE7, 0x1EE7, 1, -7794⟩, ⟨0x1EE8, 0x1EF0, 2, 1⟩,
  ⟨0x1EF2, 0x1EF2, 1, -7801⟩, ⟨0x1EF3, 0x1EF3, 1, -7802⟩, ⟨0x1EF4, 0x1EF4, 1, -7803⟩,
  ⟨0x1EF5, 0x1EF5, 1, -7804⟩, ⟨0x1EF6, 0x1EF6, 1, -7805⟩, ⟨0x1EF7, 0x1EF7, 1, -7806⟩,
  ⟨0x1EF8, 0x1EF8, 1, -7807⟩, ⟨0x1EF9, 0x1EF9, 1, -7808⟩, ⟨0x1EFA, 0x1EFE, 2, 1⟩,
  ⟨0x1F08, 0x1F0F, 1, -8⟩, ⟨0x1F18, 0x1F1D, 1, -8⟩, ⟨0x1F28, 0x1F2F, 1, -8⟩,
  ⟨0x1F38, 0x1F3F, 1, -8⟩, ⟨0x1F48, 0x1F4D, 1, -8⟩, ⟨0x1F59, 0x1F5F, 2, -8⟩,
  ⟨0x1F68, 0x1F6F, 1, -8⟩, ⟨0x1F88, 0x1F8F, 1, -8⟩, ⟨0x1F98, 0x1F9F, 1, -8⟩,
  ⟨0x1FA8, 0x1FAF, 1, -8⟩, ⟨0x1FB8, 0x1FB9, 1, -8⟩, ⟨0x1FBA, 0x1FBB, 1, -74⟩,
  ⟨0x1FBC, 0x1FBC, 1, -9⟩, ⟨0x1FBE, 0x1FBE, 1, -7173⟩, ⟨0x1FC8, 0x1FCB, 1, -86⟩,
  ⟨0x1FCC, 0x1FCC, 1, -9⟩, ⟨0x1FD8, 0x1FD9, 1, -8⟩, ⟨0x1FDA, 0x1FDB, 1, -100⟩,
  ⟨0x1FE8, 0x1FE9, 1, -8⟩, ⟨0x1FEA, 0x1FEB, 1, -112⟩, ⟨0x1FEC, 0x1FEC, 1, -7⟩,
  ⟨0x1FF8, 0x1FF9, 1, -128⟩, ⟨0x1FFA, 0x1FFB, 1, -126⟩, ⟨0x1FFC, 0x1FFC, 1, -9⟩,
  ⟨0x2126, 0x2126, 1, -7517⟩, ⟨0x212A, 0x212A, 1, -8383⟩, ⟨0x212B, 0x212B, 1, -8394⟩,
  ⟨0x2132, 0x2132, 1, 28⟩, ⟨0x2160, 0x216F, 1, 16⟩, ⟨0x2183, 0x2183, 1, 1⟩,
  ⟨0x2C00, 0x2C2E, 1, 48⟩, ⟨0x2C60, 0x2C60, 1, 1⟩, ⟨0x2C62, 0x2C62, 1, -10743⟩,
  ⟨0x2C63, 0x2C63, 1, -3814⟩, ⟨0x2C64, 0x2C64, 1, -10727⟩, ⟨0x2C67, 0x2C6B, 2, 1⟩,
  ⟨0x2C6D, 0x2C6D, 1, -10780⟩, ⟨0x2C6E, 0x2C6E, 1, -10749⟩, ⟨0x2C6F, 0x2C6F, 1, -10783⟩,
  ⟨0x2C70, 0x2C70, 1, -10782⟩, ⟨0x2C72, 0x2C72, 1, 1⟩, ⟨0x2C75, 0x2C75, 1, 1⟩,
  ⟨0x2C7E, 0x2C7F, 1, -10815⟩, ⟨0x2C80, 0x2CE2, 2, 1⟩, ⟨0x2CEB, 0x2CED, 2, 1⟩,
  ⟨0x2CF2, 0x2CF2, 1, 1⟩, ⟨0xA640, 0xA66C, 2, 1⟩, ⟨0xA680, 0xA696, 2, 1⟩,
  ⟨0xA722, 0xA72E, 2, 1⟩, ⟨0xA732, 0xA76E, 2, 1⟩, ⟨0xA779, 0xA77B, 2, 1⟩,
  ⟨0xA77D, 0xA77D, 1, -35332⟩, ⟨0xA77E, 0xA786, 2, 1⟩, ⟨0xA78B, 0xA78B, 1, 1⟩,
  ⟨0xA78D, 0xA78D, 1, -42280⟩, ⟨0xA790, 0xA792, 2, 1⟩, ⟨0xA7A0, 0xA7A8, 2, 1⟩,
  ⟨0xA7AA, 0xA7AA, 1, -42308⟩, ⟨0xFF21, 0xFF3A, 1, 32⟩, ⟨0x10400, 0x10427, 1, 40⟩]

/-- 検索語をなす文字か。 -/
def isTokenChar (c : Char) : Bool := Toggle.contains tokenToggles c.toNat

/-- 検索語の途中で捨てる文字か。 -/
def isDropped (c : Char) : Bool := droppedMarks.contains c.toNat

/-- 小文字にしてアクセントを外した文字。 -/
def fold (c : Char) : Char := Char.ofNat (ShiftRun.apply foldRuns c.toNat)

/-- 検索語に切る。途中の検索語は逆順で持つ。 -/
def tokensFrom (current : List Char) : List Char → List (List Char)
  | [] => if current.isEmpty then [] else [current.reverse]
  | c :: rest =>
    if isTokenChar c then tokensFrom (fold c :: current) rest
    else if current.isEmpty then tokensFrom [] rest
    else if isDropped c then tokensFrom current rest
    else current.reverse :: tokensFrom [] rest

/-- 本文の検索語。 -/
def tokens (s : String) : List String := (tokensFrom [] s.toList).map String.ofList

end CodeSearch.Keyword
