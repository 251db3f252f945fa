import KeywordSearch.Unicode.Chart

/-!
# Decompositions: punctuation, letterlike symbols, enclosed characters and radicals

The table is that of Unicode 17.0.
-/

set_option autoImplicit false

namespace KeywordSearch.Unicode

/-- The full compatibility decompositions of punctuation, letterlike symbols, enclosed characters
and radicals. -/
def symbolsDecompositions : Listing := [
  (0x2000, [
    [0x0020], [0x0020], [0x0020], [0x0020], [0x0020], [0x0020], [0x0020], [0x0020], [0x0020],
    [0x0020], [0x0020]]),
  (0x2011, [[0x2010]]),
  (0x2017, [[0x0020, 0x0333]]),
  (0x2024, [[0x002E], [0x002E, 0x002E], [0x002E, 0x002E, 0x002E]]),
  (0x202F, [[0x0020]]),
  (0x2033, [[0x2032, 0x2032], [0x2032, 0x2032, 0x2032]]),
  (0x2036, [[0x2035, 0x2035], [0x2035, 0x2035, 0x2035]]),
  (0x203C, [[0x0021, 0x0021]]),
  (0x203E, [[0x0020, 0x0305]]),
  (0x2047, [[0x003F, 0x003F], [0x003F, 0x0021], [0x0021, 0x003F]]),
  (0x2057, [[0x2032, 0x2032, 0x2032, 0x2032]]),
  (0x205F, [[0x0020]]),
  (0x2070, [[0x0030], [0x0069]]),
  (0x2074, [
    [0x0034], [0x0035], [0x0036], [0x0037], [0x0038], [0x0039], [0x002B], [0x2212], [0x003D],
    [0x0028], [0x0029], [0x006E], [0x0030], [0x0031], [0x0032], [0x0033], [0x0034], [0x0035],
    [0x0036], [0x0037], [0x0038], [0x0039], [0x002B], [0x2212], [0x003D], [0x0028], [0x0029]]),
  (0x2090, [
    [0x0061], [0x0065], [0x006F], [0x0078], [0x0259], [0x0068], [0x006B], [0x006C], [0x006D],
    [0x006E], [0x0070], [0x0073], [0x0074]]),
  (0x20A8, [[0x0052, 0x0073]]),
  (0x2100, [[0x0061, 0x002F, 0x0063], [0x0061, 0x002F, 0x0073], [0x0043], [0x00B0, 0x0043]]),
  (0x2105, [[0x0063, 0x002F, 0x006F], [0x0063, 0x002F, 0x0075], [0x0190]]),
  (0x2109, [
    [0x00B0, 0x0046], [0x0067], [0x0048], [0x0048], [0x0048], [0x0068], [0x0127], [0x0049],
    [0x0049], [0x004C], [0x006C]]),
  (0x2115, [[0x004E], [0x004E, 0x006F]]),
  (0x2119, [[0x0050], [0x0051], [0x0052], [0x0052], [0x0052]]),
  (0x2120, [[0x0053, 0x004D], [0x0054, 0x0045, 0x004C], [0x0054, 0x004D]]),
  (0x2124, [[0x005A]]),
  (0x2126, [[0x03A9]]),
  (0x2128, [[0x005A]]),
  (0x212A, [[0x004B], [0x0041, 0x030A], [0x0042], [0x0043]]),
  (0x212F, [[0x0065], [0x0045], [0x0046]]),
  (0x2133, [[0x004D], [0x006F], [0x05D0], [0x05D1], [0x05D2], [0x05D3], [0x0069]]),
  (0x213B, [[0x0046, 0x0041, 0x0058], [0x03C0], [0x03B3], [0x0393], [0x03A0], [0x2211]]),
  (0x2145, [[0x0044], [0x0064], [0x0065], [0x0069], [0x006A]]),
  (0x2150, [
    [0x0031, 0x2044, 0x0037], [0x0031, 0x2044, 0x0039], [0x0031, 0x2044, 0x0031, 0x0030],
    [0x0031, 0x2044, 0x0033], [0x0032, 0x2044, 0x0033], [0x0031, 0x2044, 0x0035],
    [0x0032, 0x2044, 0x0035], [0x0033, 0x2044, 0x0035], [0x0034, 0x2044, 0x0035],
    [0x0031, 0x2044, 0x0036], [0x0035, 0x2044, 0x0036], [0x0031, 0x2044, 0x0038],
    [0x0033, 0x2044, 0x0038], [0x0035, 0x2044, 0x0038], [0x0037, 0x2044, 0x0038],
    [0x0031, 0x2044], [0x0049], [0x0049, 0x0049], [0x0049, 0x0049, 0x0049], [0x0049, 0x0056],
    [0x0056], [0x0056, 0x0049], [0x0056, 0x0049, 0x0049], [0x0056, 0x0049, 0x0049, 0x0049],
    [0x0049, 0x0058], [0x0058], [0x0058, 0x0049], [0x0058, 0x0049, 0x0049], [0x004C], [0x0043],
    [0x0044], [0x004D], [0x0069], [0x0069, 0x0069], [0x0069, 0x0069, 0x0069], [0x0069, 0x0076],
    [0x0076], [0x0076, 0x0069], [0x0076, 0x0069, 0x0069], [0x0076, 0x0069, 0x0069, 0x0069],
    [0x0069, 0x0078], [0x0078], [0x0078, 0x0069], [0x0078, 0x0069, 0x0069], [0x006C], [0x0063],
    [0x0064], [0x006D]]),
  (0x2189, [[0x0030, 0x2044, 0x0033]]),
  (0x219A, [[0x2190, 0x0338], [0x2192, 0x0338]]),
  (0x21AE, [[0x2194, 0x0338]]),
  (0x21CD, [[0x21D0, 0x0338], [0x21D4, 0x0338], [0x21D2, 0x0338]]),
  (0x2204, [[0x2203, 0x0338]]),
  (0x2209, [[0x2208, 0x0338]]),
  (0x220C, [[0x220B, 0x0338]]),
  (0x2224, [[0x2223, 0x0338]]),
  (0x2226, [[0x2225, 0x0338]]),
  (0x222C, [[0x222B, 0x222B], [0x222B, 0x222B, 0x222B]]),
  (0x222F, [[0x222E, 0x222E], [0x222E, 0x222E, 0x222E]]),
  (0x2241, [[0x223C, 0x0338]]),
  (0x2244, [[0x2243, 0x0338]]),
  (0x2247, [[0x2245, 0x0338]]),
  (0x2249, [[0x2248, 0x0338]]),
  (0x2260, [[0x003D, 0x0338]]),
  (0x2262, [[0x2261, 0x0338]]),
  (0x226D, [
    [0x224D, 0x0338], [0x003C, 0x0338], [0x003E, 0x0338], [0x2264, 0x0338], [0x2265, 0x0338]]),
  (0x2274, [[0x2272, 0x0338], [0x2273, 0x0338]]),
  (0x2278, [[0x2276, 0x0338], [0x2277, 0x0338]]),
  (0x2280, [[0x227A, 0x0338], [0x227B, 0x0338]]),
  (0x2284, [[0x2282, 0x0338], [0x2283, 0x0338]]),
  (0x2288, [[0x2286, 0x0338], [0x2287, 0x0338]]),
  (0x22AC, [[0x22A2, 0x0338], [0x22A8, 0x0338], [0x22A9, 0x0338], [0x22AB, 0x0338]]),
  (0x22E0, [[0x227C, 0x0338], [0x227D, 0x0338], [0x2291, 0x0338], [0x2292, 0x0338]]),
  (0x22EA, [[0x22B2, 0x0338], [0x22B3, 0x0338], [0x22B4, 0x0338], [0x22B5, 0x0338]]),
  (0x2329, [[0x3008], [0x3009]]),
  (0x2460, [
    [0x0031], [0x0032], [0x0033], [0x0034], [0x0035], [0x0036], [0x0037], [0x0038], [0x0039],
    [0x0031, 0x0030], [0x0031, 0x0031], [0x0031, 0x0032], [0x0031, 0x0033], [0x0031, 0x0034],
    [0x0031, 0x0035], [0x0031, 0x0036], [0x0031, 0x0037], [0x0031, 0x0038], [0x0031, 0x0039],
    [0x0032, 0x0030], [0x0028, 0x0031, 0x0029], [0x0028, 0x0032, 0x0029],
    [0x0028, 0x0033, 0x0029], [0x0028, 0x0034, 0x0029], [0x0028, 0x0035, 0x0029],
    [0x0028, 0x0036, 0x0029], [0x0028, 0x0037, 0x0029], [0x0028, 0x0038, 0x0029],
    [0x0028, 0x0039, 0x0029], [0x0028, 0x0031, 0x0030, 0x0029], [0x0028, 0x0031, 0x0031, 0x0029],
    [0x0028, 0x0031, 0x0032, 0x0029], [0x0028, 0x0031, 0x0033, 0x0029],
    [0x0028, 0x0031, 0x0034, 0x0029], [0x0028, 0x0031, 0x0035, 0x0029],
    [0x0028, 0x0031, 0x0036, 0x0029], [0x0028, 0x0031, 0x0037, 0x0029],
    [0x0028, 0x0031, 0x0038, 0x0029], [0x0028, 0x0031, 0x0039, 0x0029],
    [0x0028, 0x0032, 0x0030, 0x0029], [0x0031, 0x002E], [0x0032, 0x002E], [0x0033, 0x002E],
    [0x0034, 0x002E], [0x0035, 0x002E], [0x0036, 0x002E], [0x0037, 0x002E], [0x0038, 0x002E],
    [0x0039, 0x002E], [0x0031, 0x0030, 0x002E], [0x0031, 0x0031, 0x002E],
    [0x0031, 0x0032, 0x002E], [0x0031, 0x0033, 0x002E], [0x0031, 0x0034, 0x002E],
    [0x0031, 0x0035, 0x002E], [0x0031, 0x0036, 0x002E], [0x0031, 0x0037, 0x002E],
    [0x0031, 0x0038, 0x002E], [0x0031, 0x0039, 0x002E], [0x0032, 0x0030, 0x002E],
    [0x0028, 0x0061, 0x0029], [0x0028, 0x0062, 0x0029], [0x0028, 0x0063, 0x0029],
    [0x0028, 0x0064, 0x0029], [0x0028, 0x0065, 0x0029], [0x0028, 0x0066, 0x0029],
    [0x0028, 0x0067, 0x0029], [0x0028, 0x0068, 0x0029], [0x0028, 0x0069, 0x0029],
    [0x0028, 0x006A, 0x0029], [0x0028, 0x006B, 0x0029], [0x0028, 0x006C, 0x0029],
    [0x0028, 0x006D, 0x0029], [0x0028, 0x006E, 0x0029], [0x0028, 0x006F, 0x0029],
    [0x0028, 0x0070, 0x0029], [0x0028, 0x0071, 0x0029], [0x0028, 0x0072, 0x0029],
    [0x0028, 0x0073, 0x0029], [0x0028, 0x0074, 0x0029], [0x0028, 0x0075, 0x0029],
    [0x0028, 0x0076, 0x0029], [0x0028, 0x0077, 0x0029], [0x0028, 0x0078, 0x0029],
    [0x0028, 0x0079, 0x0029], [0x0028, 0x007A, 0x0029], [0x0041], [0x0042], [0x0043], [0x0044],
    [0x0045], [0x0046], [0x0047], [0x0048], [0x0049], [0x004A], [0x004B], [0x004C], [0x004D],
    [0x004E], [0x004F], [0x0050], [0x0051], [0x0052], [0x0053], [0x0054], [0x0055], [0x0056],
    [0x0057], [0x0058], [0x0059], [0x005A], [0x0061], [0x0062], [0x0063], [0x0064], [0x0065],
    [0x0066], [0x0067], [0x0068], [0x0069], [0x006A], [0x006B], [0x006C], [0x006D], [0x006E],
    [0x006F], [0x0070]]),
  (0x24E0, [
    [0x0071], [0x0072], [0x0073], [0x0074], [0x0075], [0x0076], [0x0077], [0x0078], [0x0079],
    [0x007A], [0x0030]]),
  (0x2A0C, [[0x222B, 0x222B, 0x222B, 0x222B]]),
  (0x2A74, [[0x003A, 0x003A, 0x003D], [0x003D, 0x003D], [0x003D, 0x003D, 0x003D]]),
  (0x2ADC, [[0x2ADD, 0x0338]]),
  (0x2C7C, [[0x006A], [0x0056]]),
  (0x2D6F, [[0x2D61]]),
  (0x2E9F, [[0x6BCD]]),
  (0x2EF3, [[0x9F9F]]),
  (0x2F00, [
    [0x4E00], [0x4E28], [0x4E36], [0x4E3F], [0x4E59], [0x4E85], [0x4E8C], [0x4EA0], [0x4EBA],
    [0x513F], [0x5165], [0x516B], [0x5182], [0x5196], [0x51AB], [0x51E0], [0x51F5], [0x5200],
    [0x529B], [0x52F9], [0x5315], [0x531A], [0x5338], [0x5341], [0x535C], [0x5369], [0x5382],
    [0x53B6], [0x53C8], [0x53E3], [0x56D7], [0x571F], [0x58EB], [0x5902], [0x590A], [0x5915],
    [0x5927], [0x5973], [0x5B50], [0x5B80], [0x5BF8], [0x5C0F], [0x5C22], [0x5C38], [0x5C6E],
    [0x5C71], [0x5DDB], [0x5DE5], [0x5DF1], [0x5DFE], [0x5E72], [0x5E7A], [0x5E7F], [0x5EF4],
    [0x5EFE], [0x5F0B], [0x5F13], [0x5F50], [0x5F61], [0x5F73], [0x5FC3], [0x6208], [0x6236],
    [0x624B], [0x652F], [0x6534], [0x6587], [0x6597], [0x65A4], [0x65B9], [0x65E0], [0x65E5],
    [0x66F0], [0x6708], [0x6728], [0x6B20], [0x6B62], [0x6B79], [0x6BB3], [0x6BCB], [0x6BD4],
    [0x6BDB], [0x6C0F], [0x6C14], [0x6C34], [0x706B], [0x722A], [0x7236], [0x723B], [0x723F],
    [0x7247], [0x7259], [0x725B], [0x72AC], [0x7384], [0x7389], [0x74DC], [0x74E6], [0x7518],
    [0x751F], [0x7528], [0x7530], [0x758B], [0x7592], [0x7676], [0x767D], [0x76AE], [0x76BF],
    [0x76EE], [0x77DB], [0x77E2], [0x77F3], [0x793A], [0x79B8], [0x79BE], [0x7A74], [0x7ACB],
    [0x7AF9], [0x7C73], [0x7CF8], [0x7F36], [0x7F51], [0x7F8A], [0x7FBD], [0x8001], [0x800C],
    [0x8012], [0x8033]]),
  (0x2F80, [
    [0x807F], [0x8089], [0x81E3], [0x81EA], [0x81F3], [0x81FC], [0x820C], [0x821B], [0x821F],
    [0x826E], [0x8272], [0x8278], [0x864D], [0x866B], [0x8840], [0x884C], [0x8863], [0x897E],
    [0x898B], [0x89D2], [0x8A00], [0x8C37], [0x8C46], [0x8C55], [0x8C78], [0x8C9D], [0x8D64],
    [0x8D70], [0x8DB3], [0x8EAB], [0x8ECA], [0x8F9B], [0x8FB0], [0x8FB5], [0x9091], [0x9149],
    [0x91C6], [0x91CC], [0x91D1], [0x9577], [0x9580], [0x961C], [0x96B6], [0x96B9], [0x96E8],
    [0x9751], [0x975E], [0x9762], [0x9769], [0x97CB], [0x97ED], [0x97F3], [0x9801], [0x98A8],
    [0x98DB], [0x98DF], [0x9996], [0x9999], [0x99AC], [0x9AA8], [0x9AD8], [0x9ADF], [0x9B25],
    [0x9B2F], [0x9B32], [0x9B3C], [0x9B5A], [0x9CE5], [0x9E75], [0x9E7F], [0x9EA5], [0x9EBB],
    [0x9EC3], [0x9ECD], [0x9ED1], [0x9EF9], [0x9EFD], [0x9F0E], [0x9F13], [0x9F20], [0x9F3B],
    [0x9F4A], [0x9F52], [0x9F8D], [0x9F9C], [0x9FA0]])]

end KeywordSearch.Unicode
