import KeywordSearch.Unicode.Chart

/-!
# Decompositions: kana, Hangul letters, and squared and enclosed East Asian forms

The table is that of Unicode 17.0.
-/

set_option autoImplicit false

namespace KeywordSearch.Unicode

/-- The full compatibility decompositions of kana, Hangul letters, and squared and enclosed East
Asian forms. -/
def eastAsianDecompositions : Listing := [
  (0x3000, [[0x0020]]),
  (0x3036, [[0x3012]]),
  (0x3038, [[0x5341], [0x5344], [0x5345]]),
  (0x304C, [[0x304B, 0x3099]]),
  (0x304E, [[0x304D, 0x3099]]),
  (0x3050, [[0x304F, 0x3099]]),
  (0x3052, [[0x3051, 0x3099]]),
  (0x3054, [[0x3053, 0x3099]]),
  (0x3056, [[0x3055, 0x3099]]),
  (0x3058, [[0x3057, 0x3099]]),
  (0x305A, [[0x3059, 0x3099]]),
  (0x305C, [[0x305B, 0x3099]]),
  (0x305E, [[0x305D, 0x3099]]),
  (0x3060, [[0x305F, 0x3099]]),
  (0x3062, [[0x3061, 0x3099]]),
  (0x3065, [[0x3064, 0x3099]]),
  (0x3067, [[0x3066, 0x3099]]),
  (0x3069, [[0x3068, 0x3099]]),
  (0x3070, [[0x306F, 0x3099], [0x306F, 0x309A]]),
  (0x3073, [[0x3072, 0x3099], [0x3072, 0x309A]]),
  (0x3076, [[0x3075, 0x3099], [0x3075, 0x309A]]),
  (0x3079, [[0x3078, 0x3099], [0x3078, 0x309A]]),
  (0x307C, [[0x307B, 0x3099], [0x307B, 0x309A]]),
  (0x3094, [[0x3046, 0x3099]]),
  (0x309B, [[0x0020, 0x3099], [0x0020, 0x309A]]),
  (0x309E, [[0x309D, 0x3099], [0x3088, 0x308A]]),
  (0x30AC, [[0x30AB, 0x3099]]),
  (0x30AE, [[0x30AD, 0x3099]]),
  (0x30B0, [[0x30AF, 0x3099]]),
  (0x30B2, [[0x30B1, 0x3099]]),
  (0x30B4, [[0x30B3, 0x3099]]),
  (0x30B6, [[0x30B5, 0x3099]]),
  (0x30B8, [[0x30B7, 0x3099]]),
  (0x30BA, [[0x30B9, 0x3099]]),
  (0x30BC, [[0x30BB, 0x3099]]),
  (0x30BE, [[0x30BD, 0x3099]]),
  (0x30C0, [[0x30BF, 0x3099]]),
  (0x30C2, [[0x30C1, 0x3099]]),
  (0x30C5, [[0x30C4, 0x3099]]),
  (0x30C7, [[0x30C6, 0x3099]]),
  (0x30C9, [[0x30C8, 0x3099]]),
  (0x30D0, [[0x30CF, 0x3099], [0x30CF, 0x309A]]),
  (0x30D3, [[0x30D2, 0x3099], [0x30D2, 0x309A]]),
  (0x30D6, [[0x30D5, 0x3099], [0x30D5, 0x309A]]),
  (0x30D9, [[0x30D8, 0x3099], [0x30D8, 0x309A]]),
  (0x30DC, [[0x30DB, 0x3099], [0x30DB, 0x309A]]),
  (0x30F4, [[0x30A6, 0x3099]]),
  (0x30F7, [[0x30EF, 0x3099], [0x30F0, 0x3099], [0x30F1, 0x3099], [0x30F2, 0x3099]]),
  (0x30FE, [[0x30FD, 0x3099], [0x30B3, 0x30C8]]),
  (0x3131, [
    [0x1100], [0x1101], [0x11AA], [0x1102], [0x11AC], [0x11AD], [0x1103], [0x1104], [0x1105],
    [0x11B0], [0x11B1], [0x11B2], [0x11B3], [0x11B4], [0x11B5], [0x111A], [0x1106], [0x1107],
    [0x1108], [0x1121], [0x1109], [0x110A], [0x110B], [0x110C], [0x110D], [0x110E], [0x110F],
    [0x1110], [0x1111], [0x1112], [0x1161], [0x1162], [0x1163], [0x1164], [0x1165], [0x1166],
    [0x1167], [0x1168], [0x1169], [0x116A], [0x116B], [0x116C], [0x116D], [0x116E], [0x116F],
    [0x1170], [0x1171], [0x1172], [0x1173], [0x1174], [0x1175], [0x1160], [0x1114], [0x1115],
    [0x11C7], [0x11C8], [0x11CC], [0x11CE], [0x11D3], [0x11D7], [0x11D9], [0x111C], [0x11DD],
    [0x11DF], [0x111D], [0x111E], [0x1120], [0x1122], [0x1123], [0x1127], [0x1129], [0x112B],
    [0x112C], [0x112D], [0x112E], [0x112F], [0x1132], [0x1136], [0x1140], [0x1147], [0x114C],
    [0x11F1], [0x11F2], [0x1157], [0x1158], [0x1159], [0x1184], [0x1185], [0x1188], [0x1191],
    [0x1192], [0x1194], [0x119E], [0x11A1]]),
  (0x3192, [
    [0x4E00], [0x4E8C], [0x4E09], [0x56DB], [0x4E0A], [0x4E2D], [0x4E0B], [0x7532], [0x4E59],
    [0x4E19], [0x4E01], [0x5929], [0x5730], [0x4EBA]]),
  (0x3200, [
    [0x0028, 0x1100, 0x0029], [0x0028, 0x1102, 0x0029], [0x0028, 0x1103, 0x0029],
    [0x0028, 0x1105, 0x0029], [0x0028, 0x1106, 0x0029], [0x0028, 0x1107, 0x0029],
    [0x0028, 0x1109, 0x0029], [0x0028, 0x110B, 0x0029], [0x0028, 0x110C, 0x0029],
    [0x0028, 0x110E, 0x0029], [0x0028, 0x110F, 0x0029], [0x0028, 0x1110, 0x0029],
    [0x0028, 0x1111, 0x0029], [0x0028, 0x1112, 0x0029], [0x0028, 0x1100, 0x1161, 0x0029],
    [0x0028, 0x1102, 0x1161, 0x0029], [0x0028, 0x1103, 0x1161, 0x0029],
    [0x0028, 0x1105, 0x1161, 0x0029], [0x0028, 0x1106, 0x1161, 0x0029],
    [0x0028, 0x1107, 0x1161, 0x0029], [0x0028, 0x1109, 0x1161, 0x0029],
    [0x0028, 0x110B, 0x1161, 0x0029], [0x0028, 0x110C, 0x1161, 0x0029],
    [0x0028, 0x110E, 0x1161, 0x0029], [0x0028, 0x110F, 0x1161, 0x0029],
    [0x0028, 0x1110, 0x1161, 0x0029], [0x0028, 0x1111, 0x1161, 0x0029],
    [0x0028, 0x1112, 0x1161, 0x0029], [0x0028, 0x110C, 0x116E, 0x0029],
    [0x0028, 0x110B, 0x1169, 0x110C, 0x1165, 0x11AB, 0x0029],
    [0x0028, 0x110B, 0x1169, 0x1112, 0x116E, 0x0029]]),
  (0x3220, [
    [0x0028, 0x4E00, 0x0029], [0x0028, 0x4E8C, 0x0029], [0x0028, 0x4E09, 0x0029],
    [0x0028, 0x56DB, 0x0029], [0x0028, 0x4E94, 0x0029], [0x0028, 0x516D, 0x0029],
    [0x0028, 0x4E03, 0x0029], [0x0028, 0x516B, 0x0029], [0x0028, 0x4E5D, 0x0029],
    [0x0028, 0x5341, 0x0029], [0x0028, 0x6708, 0x0029], [0x0028, 0x706B, 0x0029],
    [0x0028, 0x6C34, 0x0029], [0x0028, 0x6728, 0x0029], [0x0028, 0x91D1, 0x0029],
    [0x0028, 0x571F, 0x0029], [0x0028, 0x65E5, 0x0029], [0x0028, 0x682A, 0x0029],
    [0x0028, 0x6709, 0x0029], [0x0028, 0x793E, 0x0029], [0x0028, 0x540D, 0x0029],
    [0x0028, 0x7279, 0x0029], [0x0028, 0x8CA1, 0x0029], [0x0028, 0x795D, 0x0029],
    [0x0028, 0x52B4, 0x0029], [0x0028, 0x4EE3, 0x0029], [0x0028, 0x547C, 0x0029],
    [0x0028, 0x5B66, 0x0029], [0x0028, 0x76E3, 0x0029], [0x0028, 0x4F01, 0x0029],
    [0x0028, 0x8CC7, 0x0029], [0x0028, 0x5354, 0x0029], [0x0028, 0x796D, 0x0029],
    [0x0028, 0x4F11, 0x0029], [0x0028, 0x81EA, 0x0029], [0x0028, 0x81F3, 0x0029], [0x554F],
    [0x5E7C], [0x6587], [0x7B8F]]),
  (0x3250, [
    [0x0050, 0x0054, 0x0045], [0x0032, 0x0031], [0x0032, 0x0032], [0x0032, 0x0033],
    [0x0032, 0x0034], [0x0032, 0x0035], [0x0032, 0x0036], [0x0032, 0x0037], [0x0032, 0x0038],
    [0x0032, 0x0039], [0x0033, 0x0030], [0x0033, 0x0031], [0x0033, 0x0032], [0x0033, 0x0033],
    [0x0033, 0x0034], [0x0033, 0x0035], [0x1100], [0x1102], [0x1103], [0x1105], [0x1106],
    [0x1107], [0x1109], [0x110B], [0x110C], [0x110E], [0x110F], [0x1110], [0x1111], [0x1112],
    [0x1100, 0x1161], [0x1102, 0x1161], [0x1103, 0x1161], [0x1105, 0x1161], [0x1106, 0x1161],
    [0x1107, 0x1161], [0x1109, 0x1161], [0x110B, 0x1161], [0x110C, 0x1161], [0x110E, 0x1161],
    [0x110F, 0x1161], [0x1110, 0x1161], [0x1111, 0x1161], [0x1112, 0x1161],
    [0x110E, 0x1161, 0x11B7, 0x1100, 0x1169], [0x110C, 0x116E, 0x110B, 0x1174], [0x110B, 0x116E]]),
  (0x3280, [
    [0x4E00], [0x4E8C], [0x4E09], [0x56DB], [0x4E94], [0x516D], [0x4E03], [0x516B], [0x4E5D],
    [0x5341], [0x6708], [0x706B], [0x6C34], [0x6728], [0x91D1], [0x571F], [0x65E5], [0x682A],
    [0x6709], [0x793E], [0x540D], [0x7279], [0x8CA1], [0x795D], [0x52B4], [0x79D8], [0x7537],
    [0x5973], [0x9069], [0x512A], [0x5370], [0x6CE8], [0x9805], [0x4F11], [0x5199], [0x6B63],
    [0x4E0A], [0x4E2D], [0x4E0B], [0x5DE6], [0x53F3], [0x533B], [0x5B97], [0x5B66], [0x76E3],
    [0x4F01], [0x8CC7], [0x5354], [0x591C], [0x0033, 0x0036], [0x0033, 0x0037], [0x0033, 0x0038],
    [0x0033, 0x0039], [0x0034, 0x0030], [0x0034, 0x0031], [0x0034, 0x0032], [0x0034, 0x0033],
    [0x0034, 0x0034], [0x0034, 0x0035], [0x0034, 0x0036], [0x0034, 0x0037], [0x0034, 0x0038],
    [0x0034, 0x0039], [0x0035, 0x0030], [0x0031, 0x6708], [0x0032, 0x6708], [0x0033, 0x6708],
    [0x0034, 0x6708], [0x0035, 0x6708], [0x0036, 0x6708], [0x0037, 0x6708], [0x0038, 0x6708],
    [0x0039, 0x6708], [0x0031, 0x0030, 0x6708], [0x0031, 0x0031, 0x6708],
    [0x0031, 0x0032, 0x6708], [0x0048, 0x0067], [0x0065, 0x0072, 0x0067], [0x0065, 0x0056],
    [0x004C, 0x0054, 0x0044], [0x30A2], [0x30A4], [0x30A6], [0x30A8], [0x30AA], [0x30AB],
    [0x30AD], [0x30AF], [0x30B1], [0x30B3], [0x30B5], [0x30B7], [0x30B9], [0x30BB], [0x30BD],
    [0x30BF], [0x30C1], [0x30C4], [0x30C6], [0x30C8], [0x30CA], [0x30CB], [0x30CC], [0x30CD],
    [0x30CE], [0x30CF], [0x30D2], [0x30D5], [0x30D8], [0x30DB], [0x30DE], [0x30DF], [0x30E0],
    [0x30E1], [0x30E2], [0x30E4], [0x30E6], [0x30E8], [0x30E9], [0x30EA], [0x30EB], [0x30EC],
    [0x30ED], [0x30EF], [0x30F0], [0x30F1], [0x30F2], [0x4EE4, 0x548C]]),
  (0x3300, [
    [0x30A2, 0x30CF, 0x309A, 0x30FC, 0x30C8], [0x30A2, 0x30EB, 0x30D5, 0x30A1],
    [0x30A2, 0x30F3, 0x30D8, 0x309A, 0x30A2], [0x30A2, 0x30FC, 0x30EB],
    [0x30A4, 0x30CB, 0x30F3, 0x30AF, 0x3099], [0x30A4, 0x30F3, 0x30C1], [0x30A6, 0x30A9, 0x30F3],
    [0x30A8, 0x30B9, 0x30AF, 0x30FC, 0x30C8, 0x3099], [0x30A8, 0x30FC, 0x30AB, 0x30FC],
    [0x30AA, 0x30F3, 0x30B9], [0x30AA, 0x30FC, 0x30E0], [0x30AB, 0x30A4, 0x30EA],
    [0x30AB, 0x30E9, 0x30C3, 0x30C8], [0x30AB, 0x30ED, 0x30EA, 0x30FC],
    [0x30AB, 0x3099, 0x30ED, 0x30F3], [0x30AB, 0x3099, 0x30F3, 0x30DE],
    [0x30AD, 0x3099, 0x30AB, 0x3099], [0x30AD, 0x3099, 0x30CB, 0x30FC],
    [0x30AD, 0x30E5, 0x30EA, 0x30FC], [0x30AD, 0x3099, 0x30EB, 0x30BF, 0x3099, 0x30FC],
    [0x30AD, 0x30ED], [0x30AD, 0x30ED, 0x30AF, 0x3099, 0x30E9, 0x30E0],
    [0x30AD, 0x30ED, 0x30E1, 0x30FC, 0x30C8, 0x30EB], [0x30AD, 0x30ED, 0x30EF, 0x30C3, 0x30C8],
    [0x30AF, 0x3099, 0x30E9, 0x30E0], [0x30AF, 0x3099, 0x30E9, 0x30E0, 0x30C8, 0x30F3],
    [0x30AF, 0x30EB, 0x30BB, 0x3099, 0x30A4, 0x30ED], [0x30AF, 0x30ED, 0x30FC, 0x30CD],
    [0x30B1, 0x30FC, 0x30B9], [0x30B3, 0x30EB, 0x30CA], [0x30B3, 0x30FC, 0x30DB, 0x309A],
    [0x30B5, 0x30A4, 0x30AF, 0x30EB], [0x30B5, 0x30F3, 0x30C1, 0x30FC, 0x30E0],
    [0x30B7, 0x30EA, 0x30F3, 0x30AF, 0x3099], [0x30BB, 0x30F3, 0x30C1], [0x30BB, 0x30F3, 0x30C8],
    [0x30BF, 0x3099, 0x30FC, 0x30B9], [0x30C6, 0x3099, 0x30B7], [0x30C8, 0x3099, 0x30EB],
    [0x30C8, 0x30F3], [0x30CA, 0x30CE], [0x30CE, 0x30C3, 0x30C8], [0x30CF, 0x30A4, 0x30C4],
    [0x30CF, 0x309A, 0x30FC, 0x30BB, 0x30F3, 0x30C8], [0x30CF, 0x309A, 0x30FC, 0x30C4],
    [0x30CF, 0x3099, 0x30FC, 0x30EC, 0x30EB], [0x30D2, 0x309A, 0x30A2, 0x30B9, 0x30C8, 0x30EB],
    [0x30D2, 0x309A, 0x30AF, 0x30EB], [0x30D2, 0x309A, 0x30B3], [0x30D2, 0x3099, 0x30EB],
    [0x30D5, 0x30A1, 0x30E9, 0x30C3, 0x30C8, 0x3099], [0x30D5, 0x30A3, 0x30FC, 0x30C8],
    [0x30D5, 0x3099, 0x30C3, 0x30B7, 0x30A7, 0x30EB], [0x30D5, 0x30E9, 0x30F3],
    [0x30D8, 0x30AF, 0x30BF, 0x30FC, 0x30EB], [0x30D8, 0x309A, 0x30BD],
    [0x30D8, 0x309A, 0x30CB, 0x30D2], [0x30D8, 0x30EB, 0x30C4], [0x30D8, 0x309A, 0x30F3, 0x30B9],
    [0x30D8, 0x309A, 0x30FC, 0x30B7, 0x3099], [0x30D8, 0x3099, 0x30FC, 0x30BF],
    [0x30DB, 0x309A, 0x30A4, 0x30F3, 0x30C8], [0x30DB, 0x3099, 0x30EB, 0x30C8], [0x30DB, 0x30F3],
    [0x30DB, 0x309A, 0x30F3, 0x30C8, 0x3099], [0x30DB, 0x30FC, 0x30EB], [0x30DB, 0x30FC, 0x30F3],
    [0x30DE, 0x30A4, 0x30AF, 0x30ED], [0x30DE, 0x30A4, 0x30EB], [0x30DE, 0x30C3, 0x30CF],
    [0x30DE, 0x30EB, 0x30AF], [0x30DE, 0x30F3, 0x30B7, 0x30E7, 0x30F3],
    [0x30DF, 0x30AF, 0x30ED, 0x30F3], [0x30DF, 0x30EA],
    [0x30DF, 0x30EA, 0x30CF, 0x3099, 0x30FC, 0x30EB], [0x30E1, 0x30AB, 0x3099],
    [0x30E1, 0x30AB, 0x3099, 0x30C8, 0x30F3], [0x30E1, 0x30FC, 0x30C8, 0x30EB],
    [0x30E4, 0x30FC, 0x30C8, 0x3099], [0x30E4, 0x30FC, 0x30EB], [0x30E6, 0x30A2, 0x30F3],
    [0x30EA, 0x30C3, 0x30C8, 0x30EB], [0x30EA, 0x30E9], [0x30EB, 0x30D2, 0x309A, 0x30FC],
    [0x30EB, 0x30FC, 0x30D5, 0x3099, 0x30EB], [0x30EC, 0x30E0],
    [0x30EC, 0x30F3, 0x30C8, 0x30B1, 0x3099, 0x30F3], [0x30EF, 0x30C3, 0x30C8], [0x0030, 0x70B9],
    [0x0031, 0x70B9], [0x0032, 0x70B9], [0x0033, 0x70B9], [0x0034, 0x70B9], [0x0035, 0x70B9],
    [0x0036, 0x70B9], [0x0037, 0x70B9], [0x0038, 0x70B9], [0x0039, 0x70B9],
    [0x0031, 0x0030, 0x70B9], [0x0031, 0x0031, 0x70B9], [0x0031, 0x0032, 0x70B9],
    [0x0031, 0x0033, 0x70B9], [0x0031, 0x0034, 0x70B9], [0x0031, 0x0035, 0x70B9],
    [0x0031, 0x0036, 0x70B9], [0x0031, 0x0037, 0x70B9], [0x0031, 0x0038, 0x70B9],
    [0x0031, 0x0039, 0x70B9], [0x0032, 0x0030, 0x70B9], [0x0032, 0x0031, 0x70B9],
    [0x0032, 0x0032, 0x70B9], [0x0032, 0x0033, 0x70B9], [0x0032, 0x0034, 0x70B9],
    [0x0068, 0x0050, 0x0061], [0x0064, 0x0061], [0x0041, 0x0055], [0x0062, 0x0061, 0x0072],
    [0x006F, 0x0056], [0x0070, 0x0063], [0x0064, 0x006D], [0x0064, 0x006D, 0x0032],
    [0x0064, 0x006D, 0x0033], [0x0049, 0x0055], [0x5E73, 0x6210], [0x662D, 0x548C],
    [0x5927, 0x6B63], [0x660E, 0x6CBB], [0x682A, 0x5F0F, 0x4F1A, 0x793E]]),
  (0x3380, [
    [0x0070, 0x0041], [0x006E, 0x0041], [0x03BC, 0x0041], [0x006D, 0x0041], [0x006B, 0x0041],
    [0x004B, 0x0042], [0x004D, 0x0042], [0x0047, 0x0042], [0x0063, 0x0061, 0x006C],
    [0x006B, 0x0063, 0x0061, 0x006C], [0x0070, 0x0046], [0x006E, 0x0046], [0x03BC, 0x0046],
    [0x03BC, 0x0067], [0x006D, 0x0067], [0x006B, 0x0067], [0x0048, 0x007A],
    [0x006B, 0x0048, 0x007A], [0x004D, 0x0048, 0x007A], [0x0047, 0x0048, 0x007A],
    [0x0054, 0x0048, 0x007A], [0x03BC, 0x006C], [0x006D, 0x006C], [0x0064, 0x006C],
    [0x006B, 0x006C], [0x0066, 0x006D], [0x006E, 0x006D], [0x03BC, 0x006D], [0x006D, 0x006D],
    [0x0063, 0x006D], [0x006B, 0x006D], [0x006D, 0x006D, 0x0032], [0x0063, 0x006D, 0x0032],
    [0x006D, 0x0032], [0x006B, 0x006D, 0x0032], [0x006D, 0x006D, 0x0033],
    [0x0063, 0x006D, 0x0033], [0x006D, 0x0033], [0x006B, 0x006D, 0x0033],
    [0x006D, 0x2215, 0x0073], [0x006D, 0x2215, 0x0073, 0x0032], [0x0050, 0x0061],
    [0x006B, 0x0050, 0x0061], [0x004D, 0x0050, 0x0061], [0x0047, 0x0050, 0x0061],
    [0x0072, 0x0061, 0x0064], [0x0072, 0x0061, 0x0064, 0x2215, 0x0073],
    [0x0072, 0x0061, 0x0064, 0x2215, 0x0073, 0x0032], [0x0070, 0x0073], [0x006E, 0x0073],
    [0x03BC, 0x0073], [0x006D, 0x0073], [0x0070, 0x0056], [0x006E, 0x0056], [0x03BC, 0x0056],
    [0x006D, 0x0056], [0x006B, 0x0056], [0x004D, 0x0056], [0x0070, 0x0057], [0x006E, 0x0057],
    [0x03BC, 0x0057], [0x006D, 0x0057], [0x006B, 0x0057], [0x004D, 0x0057], [0x006B, 0x03A9],
    [0x004D, 0x03A9], [0x0061, 0x002E, 0x006D, 0x002E], [0x0042, 0x0071], [0x0063, 0x0063],
    [0x0063, 0x0064], [0x0043, 0x2215, 0x006B, 0x0067], [0x0043, 0x006F, 0x002E],
    [0x0064, 0x0042], [0x0047, 0x0079], [0x0068, 0x0061], [0x0048, 0x0050], [0x0069, 0x006E],
    [0x004B, 0x004B], [0x004B, 0x004D], [0x006B, 0x0074], [0x006C, 0x006D], [0x006C, 0x006E],
    [0x006C, 0x006F, 0x0067], [0x006C, 0x0078], [0x006D, 0x0062], [0x006D, 0x0069, 0x006C],
    [0x006D, 0x006F, 0x006C], [0x0050, 0x0048], [0x0070, 0x002E, 0x006D, 0x002E],
    [0x0050, 0x0050, 0x004D], [0x0050, 0x0052], [0x0073, 0x0072], [0x0053, 0x0076],
    [0x0057, 0x0062], [0x0056, 0x2215, 0x006D], [0x0041, 0x2215, 0x006D], [0x0031, 0x65E5],
    [0x0032, 0x65E5], [0x0033, 0x65E5], [0x0034, 0x65E5], [0x0035, 0x65E5], [0x0036, 0x65E5],
    [0x0037, 0x65E5], [0x0038, 0x65E5], [0x0039, 0x65E5], [0x0031, 0x0030, 0x65E5],
    [0x0031, 0x0031, 0x65E5], [0x0031, 0x0032, 0x65E5], [0x0031, 0x0033, 0x65E5],
    [0x0031, 0x0034, 0x65E5], [0x0031, 0x0035, 0x65E5], [0x0031, 0x0036, 0x65E5],
    [0x0031, 0x0037, 0x65E5], [0x0031, 0x0038, 0x65E5], [0x0031, 0x0039, 0x65E5],
    [0x0032, 0x0030, 0x65E5], [0x0032, 0x0031, 0x65E5], [0x0032, 0x0032, 0x65E5],
    [0x0032, 0x0033, 0x65E5], [0x0032, 0x0034, 0x65E5], [0x0032, 0x0035, 0x65E5],
    [0x0032, 0x0036, 0x65E5], [0x0032, 0x0037, 0x65E5], [0x0032, 0x0038, 0x65E5],
    [0x0032, 0x0039, 0x65E5], [0x0033, 0x0030, 0x65E5], [0x0033, 0x0031, 0x65E5],
    [0x0067, 0x0061, 0x006C]]),
  (0xA69C, [[0x044A], [0x044C]]),
  (0xA770, [[0xA76F]]),
  (0xA7F1, [[0x0053], [0x0043], [0x0046], [0x0051]]),
  (0xA7F8, [[0x0126], [0x0153]]),
  (0xAB5C, [[0xA727], [0xAB37], [0x026B], [0xAB52]]),
  (0xAB69, [[0x028D]])]

end KeywordSearch.Unicode
