import KeywordSearch.Unicode.Chart

/-!
# Decompositions: phonetic letters, precomposed Latin and polytonic Greek

The table is that of Unicode 17.0.
-/

set_option autoImplicit false

namespace KeywordSearch.Unicode

/-- The full compatibility decompositions of phonetic letters, precomposed Latin and polytonic
Greek. -/
def phoneticDecompositions : Listing := [
  (0x1D2C, [[0x0041], [0x00C6], [0x0042]]),
  (0x1D30, [
    [0x0044], [0x0045], [0x018E], [0x0047], [0x0048], [0x0049], [0x004A], [0x004B], [0x004C],
    [0x004D], [0x004E]]),
  (0x1D3C, [
    [0x004F], [0x0222], [0x0050], [0x0052], [0x0054], [0x0055], [0x0057], [0x0061], [0x0250],
    [0x0251], [0x1D02], [0x0062], [0x0064], [0x0065], [0x0259], [0x025B], [0x025C], [0x0067]]),
  (0x1D4F, [
    [0x006B], [0x006D], [0x014B], [0x006F], [0x0254], [0x1D16], [0x1D17], [0x0070], [0x0074],
    [0x0075], [0x1D1D], [0x026F], [0x0076], [0x1D25], [0x03B2], [0x03B3], [0x03B4], [0x03C6],
    [0x03C7], [0x0069], [0x0072], [0x0075], [0x0076], [0x03B2], [0x03B3], [0x03C1], [0x03C6],
    [0x03C7]]),
  (0x1D78, [[0x043D]]),
  (0x1D9B, [
    [0x0252], [0x0063], [0x0255], [0x00F0], [0x025C], [0x0066], [0x025F], [0x0261], [0x0265],
    [0x0268], [0x0269], [0x026A], [0x1D7B], [0x029D], [0x026D], [0x1D85], [0x029F], [0x0271],
    [0x0270], [0x0272], [0x0273], [0x0274], [0x0275], [0x0278], [0x0282], [0x0283], [0x01AB],
    [0x0289], [0x028A], [0x1D1C], [0x028B], [0x028C], [0x007A], [0x0290], [0x0291], [0x0292],
    [0x03B8]]),
  (0x1E00, [
    [0x0041, 0x0325], [0x0061, 0x0325], [0x0042, 0x0307], [0x0062, 0x0307], [0x0042, 0x0323],
    [0x0062, 0x0323], [0x0042, 0x0331], [0x0062, 0x0331], [0x0043, 0x0327, 0x0301],
    [0x0063, 0x0327, 0x0301], [0x0044, 0x0307], [0x0064, 0x0307], [0x0044, 0x0323],
    [0x0064, 0x0323], [0x0044, 0x0331], [0x0064, 0x0331], [0x0044, 0x0327], [0x0064, 0x0327],
    [0x0044, 0x032D], [0x0064, 0x032D], [0x0045, 0x0304, 0x0300], [0x0065, 0x0304, 0x0300],
    [0x0045, 0x0304, 0x0301], [0x0065, 0x0304, 0x0301], [0x0045, 0x032D], [0x0065, 0x032D],
    [0x0045, 0x0330], [0x0065, 0x0330], [0x0045, 0x0327, 0x0306], [0x0065, 0x0327, 0x0306],
    [0x0046, 0x0307], [0x0066, 0x0307], [0x0047, 0x0304], [0x0067, 0x0304], [0x0048, 0x0307],
    [0x0068, 0x0307], [0x0048, 0x0323], [0x0068, 0x0323], [0x0048, 0x0308], [0x0068, 0x0308],
    [0x0048, 0x0327], [0x0068, 0x0327], [0x0048, 0x032E], [0x0068, 0x032E], [0x0049, 0x0330],
    [0x0069, 0x0330], [0x0049, 0x0308, 0x0301], [0x0069, 0x0308, 0x0301], [0x004B, 0x0301],
    [0x006B, 0x0301], [0x004B, 0x0323], [0x006B, 0x0323], [0x004B, 0x0331], [0x006B, 0x0331],
    [0x004C, 0x0323], [0x006C, 0x0323], [0x004C, 0x0323, 0x0304], [0x006C, 0x0323, 0x0304],
    [0x004C, 0x0331], [0x006C, 0x0331], [0x004C, 0x032D], [0x006C, 0x032D], [0x004D, 0x0301],
    [0x006D, 0x0301], [0x004D, 0x0307], [0x006D, 0x0307], [0x004D, 0x0323], [0x006D, 0x0323],
    [0x004E, 0x0307], [0x006E, 0x0307], [0x004E, 0x0323], [0x006E, 0x0323], [0x004E, 0x0331],
    [0x006E, 0x0331], [0x004E, 0x032D], [0x006E, 0x032D], [0x004F, 0x0303, 0x0301],
    [0x006F, 0x0303, 0x0301], [0x004F, 0x0303, 0x0308], [0x006F, 0x0303, 0x0308],
    [0x004F, 0x0304, 0x0300], [0x006F, 0x0304, 0x0300], [0x004F, 0x0304, 0x0301],
    [0x006F, 0x0304, 0x0301], [0x0050, 0x0301], [0x0070, 0x0301], [0x0050, 0x0307],
    [0x0070, 0x0307], [0x0052, 0x0307], [0x0072, 0x0307], [0x0052, 0x0323], [0x0072, 0x0323],
    [0x0052, 0x0323, 0x0304], [0x0072, 0x0323, 0x0304], [0x0052, 0x0331], [0x0072, 0x0331],
    [0x0053, 0x0307], [0x0073, 0x0307], [0x0053, 0x0323], [0x0073, 0x0323],
    [0x0053, 0x0301, 0x0307], [0x0073, 0x0301, 0x0307], [0x0053, 0x030C, 0x0307],
    [0x0073, 0x030C, 0x0307], [0x0053, 0x0323, 0x0307], [0x0073, 0x0323, 0x0307],
    [0x0054, 0x0307], [0x0074, 0x0307], [0x0054, 0x0323], [0x0074, 0x0323], [0x0054, 0x0331],
    [0x0074, 0x0331], [0x0054, 0x032D], [0x0074, 0x032D], [0x0055, 0x0324], [0x0075, 0x0324],
    [0x0055, 0x0330], [0x0075, 0x0330], [0x0055, 0x032D], [0x0075, 0x032D],
    [0x0055, 0x0303, 0x0301], [0x0075, 0x0303, 0x0301], [0x0055, 0x0304, 0x0308],
    [0x0075, 0x0304, 0x0308], [0x0056, 0x0303], [0x0076, 0x0303], [0x0056, 0x0323],
    [0x0076, 0x0323]]),
  (0x1E80, [
    [0x0057, 0x0300], [0x0077, 0x0300], [0x0057, 0x0301], [0x0077, 0x0301], [0x0057, 0x0308],
    [0x0077, 0x0308], [0x0057, 0x0307], [0x0077, 0x0307], [0x0057, 0x0323], [0x0077, 0x0323],
    [0x0058, 0x0307], [0x0078, 0x0307], [0x0058, 0x0308], [0x0078, 0x0308], [0x0059, 0x0307],
    [0x0079, 0x0307], [0x005A, 0x0302], [0x007A, 0x0302], [0x005A, 0x0323], [0x007A, 0x0323],
    [0x005A, 0x0331], [0x007A, 0x0331], [0x0068, 0x0331], [0x0074, 0x0308], [0x0077, 0x030A],
    [0x0079, 0x030A], [0x0061, 0x02BE], [0x0073, 0x0307]]),
  (0x1EA0, [
    [0x0041, 0x0323], [0x0061, 0x0323], [0x0041, 0x0309], [0x0061, 0x0309],
    [0x0041, 0x0302, 0x0301], [0x0061, 0x0302, 0x0301], [0x0041, 0x0302, 0x0300],
    [0x0061, 0x0302, 0x0300], [0x0041, 0x0302, 0x0309], [0x0061, 0x0302, 0x0309],
    [0x0041, 0x0302, 0x0303], [0x0061, 0x0302, 0x0303], [0x0041, 0x0323, 0x0302],
    [0x0061, 0x0323, 0x0302], [0x0041, 0x0306, 0x0301], [0x0061, 0x0306, 0x0301],
    [0x0041, 0x0306, 0x0300], [0x0061, 0x0306, 0x0300], [0x0041, 0x0306, 0x0309],
    [0x0061, 0x0306, 0x0309], [0x0041, 0x0306, 0x0303], [0x0061, 0x0306, 0x0303],
    [0x0041, 0x0323, 0x0306], [0x0061, 0x0323, 0x0306], [0x0045, 0x0323], [0x0065, 0x0323],
    [0x0045, 0x0309], [0x0065, 0x0309], [0x0045, 0x0303], [0x0065, 0x0303],
    [0x0045, 0x0302, 0x0301], [0x0065, 0x0302, 0x0301], [0x0045, 0x0302, 0x0300],
    [0x0065, 0x0302, 0x0300], [0x0045, 0x0302, 0x0309], [0x0065, 0x0302, 0x0309],
    [0x0045, 0x0302, 0x0303], [0x0065, 0x0302, 0x0303], [0x0045, 0x0323, 0x0302],
    [0x0065, 0x0323, 0x0302], [0x0049, 0x0309], [0x0069, 0x0309], [0x0049, 0x0323],
    [0x0069, 0x0323], [0x004F, 0x0323], [0x006F, 0x0323], [0x004F, 0x0309], [0x006F, 0x0309],
    [0x004F, 0x0302, 0x0301], [0x006F, 0x0302, 0x0301], [0x004F, 0x0302, 0x0300],
    [0x006F, 0x0302, 0x0300], [0x004F, 0x0302, 0x0309], [0x006F, 0x0302, 0x0309],
    [0x004F, 0x0302, 0x0303], [0x006F, 0x0302, 0x0303], [0x004F, 0x0323, 0x0302],
    [0x006F, 0x0323, 0x0302], [0x004F, 0x031B, 0x0301], [0x006F, 0x031B, 0x0301],
    [0x004F, 0x031B, 0x0300], [0x006F, 0x031B, 0x0300], [0x004F, 0x031B, 0x0309],
    [0x006F, 0x031B, 0x0309], [0x004F, 0x031B, 0x0303], [0x006F, 0x031B, 0x0303],
    [0x004F, 0x031B, 0x0323], [0x006F, 0x031B, 0x0323], [0x0055, 0x0323], [0x0075, 0x0323],
    [0x0055, 0x0309], [0x0075, 0x0309], [0x0055, 0x031B, 0x0301], [0x0075, 0x031B, 0x0301],
    [0x0055, 0x031B, 0x0300], [0x0075, 0x031B, 0x0300], [0x0055, 0x031B, 0x0309],
    [0x0075, 0x031B, 0x0309], [0x0055, 0x031B, 0x0303], [0x0075, 0x031B, 0x0303],
    [0x0055, 0x031B, 0x0323], [0x0075, 0x031B, 0x0323], [0x0059, 0x0300], [0x0079, 0x0300],
    [0x0059, 0x0323], [0x0079, 0x0323], [0x0059, 0x0309], [0x0079, 0x0309], [0x0059, 0x0303],
    [0x0079, 0x0303]]),
  (0x1F00, [
    [0x03B1, 0x0313], [0x03B1, 0x0314], [0x03B1, 0x0313, 0x0300], [0x03B1, 0x0314, 0x0300],
    [0x03B1, 0x0313, 0x0301], [0x03B1, 0x0314, 0x0301], [0x03B1, 0x0313, 0x0342],
    [0x03B1, 0x0314, 0x0342], [0x0391, 0x0313], [0x0391, 0x0314], [0x0391, 0x0313, 0x0300],
    [0x0391, 0x0314, 0x0300], [0x0391, 0x0313, 0x0301], [0x0391, 0x0314, 0x0301],
    [0x0391, 0x0313, 0x0342], [0x0391, 0x0314, 0x0342], [0x03B5, 0x0313], [0x03B5, 0x0314],
    [0x03B5, 0x0313, 0x0300], [0x03B5, 0x0314, 0x0300], [0x03B5, 0x0313, 0x0301],
    [0x03B5, 0x0314, 0x0301]]),
  (0x1F18, [
    [0x0395, 0x0313], [0x0395, 0x0314], [0x0395, 0x0313, 0x0300], [0x0395, 0x0314, 0x0300],
    [0x0395, 0x0313, 0x0301], [0x0395, 0x0314, 0x0301]]),
  (0x1F20, [
    [0x03B7, 0x0313], [0x03B7, 0x0314], [0x03B7, 0x0313, 0x0300], [0x03B7, 0x0314, 0x0300],
    [0x03B7, 0x0313, 0x0301], [0x03B7, 0x0314, 0x0301], [0x03B7, 0x0313, 0x0342],
    [0x03B7, 0x0314, 0x0342], [0x0397, 0x0313], [0x0397, 0x0314], [0x0397, 0x0313, 0x0300],
    [0x0397, 0x0314, 0x0300], [0x0397, 0x0313, 0x0301], [0x0397, 0x0314, 0x0301],
    [0x0397, 0x0313, 0x0342], [0x0397, 0x0314, 0x0342], [0x03B9, 0x0313], [0x03B9, 0x0314],
    [0x03B9, 0x0313, 0x0300], [0x03B9, 0x0314, 0x0300], [0x03B9, 0x0313, 0x0301],
    [0x03B9, 0x0314, 0x0301], [0x03B9, 0x0313, 0x0342], [0x03B9, 0x0314, 0x0342],
    [0x0399, 0x0313], [0x0399, 0x0314], [0x0399, 0x0313, 0x0300], [0x0399, 0x0314, 0x0300],
    [0x0399, 0x0313, 0x0301], [0x0399, 0x0314, 0x0301], [0x0399, 0x0313, 0x0342],
    [0x0399, 0x0314, 0x0342], [0x03BF, 0x0313], [0x03BF, 0x0314], [0x03BF, 0x0313, 0x0300],
    [0x03BF, 0x0314, 0x0300], [0x03BF, 0x0313, 0x0301], [0x03BF, 0x0314, 0x0301]]),
  (0x1F48, [
    [0x039F, 0x0313], [0x039F, 0x0314], [0x039F, 0x0313, 0x0300], [0x039F, 0x0314, 0x0300],
    [0x039F, 0x0313, 0x0301], [0x039F, 0x0314, 0x0301]]),
  (0x1F50, [
    [0x03C5, 0x0313], [0x03C5, 0x0314], [0x03C5, 0x0313, 0x0300], [0x03C5, 0x0314, 0x0300],
    [0x03C5, 0x0313, 0x0301], [0x03C5, 0x0314, 0x0301], [0x03C5, 0x0313, 0x0342],
    [0x03C5, 0x0314, 0x0342]]),
  (0x1F59, [[0x03A5, 0x0314]]),
  (0x1F5B, [[0x03A5, 0x0314, 0x0300]]),
  (0x1F5D, [[0x03A5, 0x0314, 0x0301]]),
  (0x1F5F, [
    [0x03A5, 0x0314, 0x0342], [0x03C9, 0x0313], [0x03C9, 0x0314], [0x03C9, 0x0313, 0x0300],
    [0x03C9, 0x0314, 0x0300], [0x03C9, 0x0313, 0x0301], [0x03C9, 0x0314, 0x0301],
    [0x03C9, 0x0313, 0x0342], [0x03C9, 0x0314, 0x0342], [0x03A9, 0x0313], [0x03A9, 0x0314],
    [0x03A9, 0x0313, 0x0300], [0x03A9, 0x0314, 0x0300], [0x03A9, 0x0313, 0x0301],
    [0x03A9, 0x0314, 0x0301], [0x03A9, 0x0313, 0x0342], [0x03A9, 0x0314, 0x0342],
    [0x03B1, 0x0300], [0x03B1, 0x0301], [0x03B5, 0x0300], [0x03B5, 0x0301], [0x03B7, 0x0300],
    [0x03B7, 0x0301], [0x03B9, 0x0300], [0x03B9, 0x0301], [0x03BF, 0x0300], [0x03BF, 0x0301],
    [0x03C5, 0x0300], [0x03C5, 0x0301], [0x03C9, 0x0300], [0x03C9, 0x0301]]),
  (0x1F80, [
    [0x03B1, 0x0313, 0x0345], [0x03B1, 0x0314, 0x0345], [0x03B1, 0x0313, 0x0300, 0x0345],
    [0x03B1, 0x0314, 0x0300, 0x0345], [0x03B1, 0x0313, 0x0301, 0x0345],
    [0x03B1, 0x0314, 0x0301, 0x0345], [0x03B1, 0x0313, 0x0342, 0x0345],
    [0x03B1, 0x0314, 0x0342, 0x0345], [0x0391, 0x0313, 0x0345], [0x0391, 0x0314, 0x0345],
    [0x0391, 0x0313, 0x0300, 0x0345], [0x0391, 0x0314, 0x0300, 0x0345],
    [0x0391, 0x0313, 0x0301, 0x0345], [0x0391, 0x0314, 0x0301, 0x0345],
    [0x0391, 0x0313, 0x0342, 0x0345], [0x0391, 0x0314, 0x0342, 0x0345], [0x03B7, 0x0313, 0x0345],
    [0x03B7, 0x0314, 0x0345], [0x03B7, 0x0313, 0x0300, 0x0345], [0x03B7, 0x0314, 0x0300, 0x0345],
    [0x03B7, 0x0313, 0x0301, 0x0345], [0x03B7, 0x0314, 0x0301, 0x0345],
    [0x03B7, 0x0313, 0x0342, 0x0345], [0x03B7, 0x0314, 0x0342, 0x0345], [0x0397, 0x0313, 0x0345],
    [0x0397, 0x0314, 0x0345], [0x0397, 0x0313, 0x0300, 0x0345], [0x0397, 0x0314, 0x0300, 0x0345],
    [0x0397, 0x0313, 0x0301, 0x0345], [0x0397, 0x0314, 0x0301, 0x0345],
    [0x0397, 0x0313, 0x0342, 0x0345], [0x0397, 0x0314, 0x0342, 0x0345], [0x03C9, 0x0313, 0x0345],
    [0x03C9, 0x0314, 0x0345], [0x03C9, 0x0313, 0x0300, 0x0345], [0x03C9, 0x0314, 0x0300, 0x0345],
    [0x03C9, 0x0313, 0x0301, 0x0345], [0x03C9, 0x0314, 0x0301, 0x0345],
    [0x03C9, 0x0313, 0x0342, 0x0345], [0x03C9, 0x0314, 0x0342, 0x0345], [0x03A9, 0x0313, 0x0345],
    [0x03A9, 0x0314, 0x0345], [0x03A9, 0x0313, 0x0300, 0x0345], [0x03A9, 0x0314, 0x0300, 0x0345],
    [0x03A9, 0x0313, 0x0301, 0x0345], [0x03A9, 0x0314, 0x0301, 0x0345],
    [0x03A9, 0x0313, 0x0342, 0x0345], [0x03A9, 0x0314, 0x0342, 0x0345], [0x03B1, 0x0306],
    [0x03B1, 0x0304], [0x03B1, 0x0300, 0x0345], [0x03B1, 0x0345], [0x03B1, 0x0301, 0x0345]]),
  (0x1FB6, [
    [0x03B1, 0x0342], [0x03B1, 0x0342, 0x0345], [0x0391, 0x0306], [0x0391, 0x0304],
    [0x0391, 0x0300], [0x0391, 0x0301], [0x0391, 0x0345], [0x0020, 0x0313], [0x03B9],
    [0x0020, 0x0313], [0x0020, 0x0342], [0x0020, 0x0308, 0x0342], [0x03B7, 0x0300, 0x0345],
    [0x03B7, 0x0345], [0x03B7, 0x0301, 0x0345]]),
  (0x1FC6, [
    [0x03B7, 0x0342], [0x03B7, 0x0342, 0x0345], [0x0395, 0x0300], [0x0395, 0x0301],
    [0x0397, 0x0300], [0x0397, 0x0301], [0x0397, 0x0345], [0x0020, 0x0313, 0x0300],
    [0x0020, 0x0313, 0x0301], [0x0020, 0x0313, 0x0342], [0x03B9, 0x0306], [0x03B9, 0x0304],
    [0x03B9, 0x0308, 0x0300], [0x03B9, 0x0308, 0x0301]]),
  (0x1FD6, [
    [0x03B9, 0x0342], [0x03B9, 0x0308, 0x0342], [0x0399, 0x0306], [0x0399, 0x0304],
    [0x0399, 0x0300], [0x0399, 0x0301]]),
  (0x1FDD, [
    [0x0020, 0x0314, 0x0300], [0x0020, 0x0314, 0x0301], [0x0020, 0x0314, 0x0342],
    [0x03C5, 0x0306], [0x03C5, 0x0304], [0x03C5, 0x0308, 0x0300], [0x03C5, 0x0308, 0x0301],
    [0x03C1, 0x0313], [0x03C1, 0x0314], [0x03C5, 0x0342], [0x03C5, 0x0308, 0x0342],
    [0x03A5, 0x0306], [0x03A5, 0x0304], [0x03A5, 0x0300], [0x03A5, 0x0301], [0x03A1, 0x0314],
    [0x0020, 0x0308, 0x0300], [0x0020, 0x0308, 0x0301], [0x0060]]),
  (0x1FF2, [[0x03C9, 0x0300, 0x0345], [0x03C9, 0x0345], [0x03C9, 0x0301, 0x0345]]),
  (0x1FF6, [
    [0x03C9, 0x0342], [0x03C9, 0x0342, 0x0345], [0x039F, 0x0300], [0x039F, 0x0301],
    [0x03A9, 0x0300], [0x03A9, 0x0301], [0x03A9, 0x0345], [0x0020, 0x0301], [0x0020, 0x0314]])]

end KeywordSearch.Unicode
