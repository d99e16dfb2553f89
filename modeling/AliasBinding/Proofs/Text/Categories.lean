import AliasBinding.Text.Alphabetic
import AliasBinding.Text.Numeric

/-!
# General categories

The general category that Unicode gives to a character, as far as the categories matter to names in
C# sources.  What is alphabetic is a letter, a letter number, a mark or a symbol, and what is
numeric a decimal digit, a letter number or another number (`category_mem_of_isAlphabetic`,
`category_mem_of_isNumeric`).  Both are found by a walk over the table with the ranges in hand,
which takes the rows in ascending order and cuts off the ranges what each of them takes up.
-/

namespace AliasBinding.Text

/-- General categories. -/
inductive Category where
  /-- The categories Lu, Ll, Lt, Lm and Lo. -/
  | letter
  /-- The category Nl. -/
  | letterNumber
  /-- The categories Mn and Mc. -/
  | mark
  /-- The category Nd. -/
  | decimalDigit
  /-- The category No. -/
  | otherNumber
  /-- The category Pc. -/
  | connector
  /-- The category Cf. -/
  | format
  /-- The category So. -/
  | symbol
  /-- All other categories, and code points without a character. -/
  | other
  deriving DecidableEq, Repr

/-- Closed ranges of code points with their categories, meant in ascending order. -/
abbrev CategoryTable := List (Nat × Nat × Category)

namespace CategoryTable

/-- The category of the code point `n`. -/
def find : CategoryTable → Nat → Category
  | [], _ => .other
  | (first, last, category) :: rest, n =>
    if n < first then .other else if n ≤ last then category else find rest n

end CategoryTable

/-! ### The table

The rows name the categories as Unicode does, `L` for Lu, Ll, Lt, Lm and Lo, and `M` for Mn and
Mc.
-/

private abbrev L := Category.letter

private abbrev Nl := Category.letterNumber

private abbrev M := Category.mark

private abbrev Nd := Category.decimalDigit

private abbrev No := Category.otherNumber

private abbrev Pc := Category.connector

private abbrev Cf := Category.format

private abbrev So := Category.symbol

private def categoriesFrom0030 : CategoryTable := [
  (0x0030, 0x0039, Nd), (0x0041, 0x005A, L), (0x005F, 0x005F, Pc), (0x0061, 0x007A, L),
  (0x00A6, 0x00A6, So), (0x00A9, 0x00A9, So), (0x00AA, 0x00AA, L), (0x00AD, 0x00AD, Cf),
  (0x00AE, 0x00AE, So), (0x00B0, 0x00B0, So), (0x00B2, 0x00B3, No), (0x00B5, 0x00B5, L),
  (0x00B9, 0x00B9, No), (0x00BA, 0x00BA, L), (0x00BC, 0x00BE, No), (0x00C0, 0x00D6, L),
  (0x00D8, 0x00F6, L), (0x00F8, 0x02C1, L), (0x02C6, 0x02D1, L), (0x02E0, 0x02E4, L),
  (0x02EC, 0x02EC, L), (0x02EE, 0x02EE, L), (0x0300, 0x036F, M), (0x0370, 0x0374, L),
  (0x0376, 0x0377, L), (0x037A, 0x037D, L), (0x037F, 0x037F, L), (0x0386, 0x0386, L),
  (0x0388, 0x038A, L), (0x038C, 0x038C, L), (0x038E, 0x03A1, L), (0x03A3, 0x03F5, L),
  (0x03F7, 0x0481, L), (0x0482, 0x0482, So), (0x0483, 0x0487, M), (0x048A, 0x052F, L),
  (0x0531, 0x0556, L), (0x0559, 0x0559, L), (0x0560, 0x0588, L), (0x058D, 0x058E, So),
  (0x0591, 0x05BD, M), (0x05BF, 0x05BF, M), (0x05C1, 0x05C2, M), (0x05C4, 0x05C5, M),
  (0x05C7, 0x05C7, M), (0x05D0, 0x05EA, L), (0x05EF, 0x05F2, L), (0x0600, 0x0605, Cf),
  (0x060E, 0x060F, So), (0x0610, 0x061A, M), (0x061C, 0x061C, Cf), (0x0620, 0x064A, L),
  (0x064B, 0x065F, M), (0x0660, 0x0669, Nd), (0x066E, 0x066F, L), (0x0670, 0x0670, M),
  (0x0671, 0x06D3, L), (0x06D5, 0x06D5, L), (0x06D6, 0x06DC, M), (0x06DD, 0x06DD, Cf),
  (0x06DE, 0x06DE, So), (0x06DF, 0x06E4, M), (0x06E5, 0x06E6, L), (0x06E7, 0x06E8, M),
  (0x06E9, 0x06E9, So), (0x06EA, 0x06ED, M), (0x06EE, 0x06EF, L), (0x06F0, 0x06F9, Nd),
  (0x06FA, 0x06FC, L), (0x06FD, 0x06FE, So), (0x06FF, 0x06FF, L), (0x070F, 0x070F, Cf),
  (0x0710, 0x0710, L), (0x0711, 0x0711, M), (0x0712, 0x072F, L), (0x0730, 0x074A, M),
  (0x074D, 0x07A5, L), (0x07A6, 0x07B0, M), (0x07B1, 0x07B1, L), (0x07C0, 0x07C9, Nd),
  (0x07CA, 0x07EA, L), (0x07EB, 0x07F3, M), (0x07F4, 0x07F5, L), (0x07F6, 0x07F6, So),
  (0x07FA, 0x07FA, L), (0x07FD, 0x07FD, M), (0x0800, 0x0815, L), (0x0816, 0x0819, M),
  (0x081A, 0x081A, L), (0x081B, 0x0823, M), (0x0824, 0x0824, L), (0x0825, 0x0827, M),
  (0x0828, 0x0828, L), (0x0829, 0x082D, M), (0x0840, 0x0858, L), (0x0859, 0x085B, M),
  (0x0860, 0x086A, L), (0x0870, 0x0887, L), (0x0889, 0x088F, L), (0x0890, 0x0891, Cf),
  (0x0897, 0x089F, M), (0x08A0, 0x08C9, L), (0x08CA, 0x08E1, M), (0x08E2, 0x08E2, Cf),
  (0x08E3, 0x0903, M), (0x0904, 0x0939, L), (0x093A, 0x093C, M), (0x093D, 0x093D, L),
  (0x093E, 0x094F, M), (0x0950, 0x0950, L), (0x0951, 0x0957, M), (0x0958, 0x0961, L),
  (0x0962, 0x0963, M), (0x0966, 0x096F, Nd), (0x0971, 0x0980, L), (0x0981, 0x0983, M)]

private def categoriesFrom0985 : CategoryTable := [
  (0x0985, 0x098C, L), (0x098F, 0x0990, L), (0x0993, 0x09A8, L), (0x09AA, 0x09B0, L),
  (0x09B2, 0x09B2, L), (0x09B6, 0x09B9, L), (0x09BC, 0x09BC, M), (0x09BD, 0x09BD, L),
  (0x09BE, 0x09C4, M), (0x09C7, 0x09C8, M), (0x09CB, 0x09CD, M), (0x09CE, 0x09CE, L),
  (0x09D7, 0x09D7, M), (0x09DC, 0x09DD, L), (0x09DF, 0x09E1, L), (0x09E2, 0x09E3, M),
  (0x09E6, 0x09EF, Nd), (0x09F0, 0x09F1, L), (0x09F4, 0x09F9, No), (0x09FA, 0x09FA, So),
  (0x09FC, 0x09FC, L), (0x09FE, 0x09FE, M), (0x0A01, 0x0A03, M), (0x0A05, 0x0A0A, L),
  (0x0A0F, 0x0A10, L), (0x0A13, 0x0A28, L), (0x0A2A, 0x0A30, L), (0x0A32, 0x0A33, L),
  (0x0A35, 0x0A36, L), (0x0A38, 0x0A39, L), (0x0A3C, 0x0A3C, M), (0x0A3E, 0x0A42, M),
  (0x0A47, 0x0A48, M), (0x0A4B, 0x0A4D, M), (0x0A51, 0x0A51, M), (0x0A59, 0x0A5C, L),
  (0x0A5E, 0x0A5E, L), (0x0A66, 0x0A6F, Nd), (0x0A70, 0x0A71, M), (0x0A72, 0x0A74, L),
  (0x0A75, 0x0A75, M), (0x0A81, 0x0A83, M), (0x0A85, 0x0A8D, L), (0x0A8F, 0x0A91, L),
  (0x0A93, 0x0AA8, L), (0x0AAA, 0x0AB0, L), (0x0AB2, 0x0AB3, L), (0x0AB5, 0x0AB9, L),
  (0x0ABC, 0x0ABC, M), (0x0ABD, 0x0ABD, L), (0x0ABE, 0x0AC5, M), (0x0AC7, 0x0AC9, M),
  (0x0ACB, 0x0ACD, M), (0x0AD0, 0x0AD0, L), (0x0AE0, 0x0AE1, L), (0x0AE2, 0x0AE3, M),
  (0x0AE6, 0x0AEF, Nd), (0x0AF9, 0x0AF9, L), (0x0AFA, 0x0AFF, M), (0x0B01, 0x0B03, M),
  (0x0B05, 0x0B0C, L), (0x0B0F, 0x0B10, L), (0x0B13, 0x0B28, L), (0x0B2A, 0x0B30, L),
  (0x0B32, 0x0B33, L), (0x0B35, 0x0B39, L), (0x0B3C, 0x0B3C, M), (0x0B3D, 0x0B3D, L),
  (0x0B3E, 0x0B44, M), (0x0B47, 0x0B48, M), (0x0B4B, 0x0B4D, M), (0x0B55, 0x0B57, M),
  (0x0B5C, 0x0B5D, L), (0x0B5F, 0x0B61, L), (0x0B62, 0x0B63, M), (0x0B66, 0x0B6F, Nd),
  (0x0B70, 0x0B70, So), (0x0B71, 0x0B71, L), (0x0B72, 0x0B77, No), (0x0B82, 0x0B82, M),
  (0x0B83, 0x0B83, L), (0x0B85, 0x0B8A, L), (0x0B8E, 0x0B90, L), (0x0B92, 0x0B95, L),
  (0x0B99, 0x0B9A, L), (0x0B9C, 0x0B9C, L), (0x0B9E, 0x0B9F, L), (0x0BA3, 0x0BA4, L),
  (0x0BA8, 0x0BAA, L), (0x0BAE, 0x0BB9, L), (0x0BBE, 0x0BC2, M), (0x0BC6, 0x0BC8, M),
  (0x0BCA, 0x0BCD, M), (0x0BD0, 0x0BD0, L), (0x0BD7, 0x0BD7, M), (0x0BE6, 0x0BEF, Nd),
  (0x0BF0, 0x0BF2, No), (0x0BF3, 0x0BF8, So), (0x0BFA, 0x0BFA, So), (0x0C00, 0x0C04, M),
  (0x0C05, 0x0C0C, L), (0x0C0E, 0x0C10, L), (0x0C12, 0x0C28, L), (0x0C2A, 0x0C39, L),
  (0x0C3C, 0x0C3C, M), (0x0C3D, 0x0C3D, L), (0x0C3E, 0x0C44, M), (0x0C46, 0x0C48, M),
  (0x0C4A, 0x0C4D, M), (0x0C55, 0x0C56, M), (0x0C58, 0x0C5A, L), (0x0C5C, 0x0C5D, L),
  (0x0C60, 0x0C61, L), (0x0C62, 0x0C63, M), (0x0C66, 0x0C6F, Nd), (0x0C78, 0x0C7E, No)]

private def categoriesFrom0C7F : CategoryTable := [
  (0x0C7F, 0x0C7F, So), (0x0C80, 0x0C80, L), (0x0C81, 0x0C83, M), (0x0C85, 0x0C8C, L),
  (0x0C8E, 0x0C90, L), (0x0C92, 0x0CA8, L), (0x0CAA, 0x0CB3, L), (0x0CB5, 0x0CB9, L),
  (0x0CBC, 0x0CBC, M), (0x0CBD, 0x0CBD, L), (0x0CBE, 0x0CC4, M), (0x0CC6, 0x0CC8, M),
  (0x0CCA, 0x0CCD, M), (0x0CD5, 0x0CD6, M), (0x0CDC, 0x0CDE, L), (0x0CE0, 0x0CE1, L),
  (0x0CE2, 0x0CE3, M), (0x0CE6, 0x0CEF, Nd), (0x0CF1, 0x0CF2, L), (0x0CF3, 0x0CF3, M),
  (0x0D00, 0x0D03, M), (0x0D04, 0x0D0C, L), (0x0D0E, 0x0D10, L), (0x0D12, 0x0D3A, L),
  (0x0D3B, 0x0D3C, M), (0x0D3D, 0x0D3D, L), (0x0D3E, 0x0D44, M), (0x0D46, 0x0D48, M),
  (0x0D4A, 0x0D4D, M), (0x0D4E, 0x0D4E, L), (0x0D4F, 0x0D4F, So), (0x0D54, 0x0D56, L),
  (0x0D57, 0x0D57, M), (0x0D58, 0x0D5E, No), (0x0D5F, 0x0D61, L), (0x0D62, 0x0D63, M),
  (0x0D66, 0x0D6F, Nd), (0x0D70, 0x0D78, No), (0x0D79, 0x0D79, So), (0x0D7A, 0x0D7F, L),
  (0x0D81, 0x0D83, M), (0x0D85, 0x0D96, L), (0x0D9A, 0x0DB1, L), (0x0DB3, 0x0DBB, L),
  (0x0DBD, 0x0DBD, L), (0x0DC0, 0x0DC6, L), (0x0DCA, 0x0DCA, M), (0x0DCF, 0x0DD4, M),
  (0x0DD6, 0x0DD6, M), (0x0DD8, 0x0DDF, M), (0x0DE6, 0x0DEF, Nd), (0x0DF2, 0x0DF3, M),
  (0x0E01, 0x0E30, L), (0x0E31, 0x0E31, M), (0x0E32, 0x0E33, L), (0x0E34, 0x0E3A, M),
  (0x0E40, 0x0E46, L), (0x0E47, 0x0E4E, M), (0x0E50, 0x0E59, Nd), (0x0E81, 0x0E82, L),
  (0x0E84, 0x0E84, L), (0x0E86, 0x0E8A, L), (0x0E8C, 0x0EA3, L), (0x0EA5, 0x0EA5, L),
  (0x0EA7, 0x0EB0, L), (0x0EB1, 0x0EB1, M), (0x0EB2, 0x0EB3, L), (0x0EB4, 0x0EBC, M),
  (0x0EBD, 0x0EBD, L), (0x0EC0, 0x0EC4, L), (0x0EC6, 0x0EC6, L), (0x0EC8, 0x0ECE, M),
  (0x0ED0, 0x0ED9, Nd), (0x0EDC, 0x0EDF, L), (0x0F00, 0x0F00, L), (0x0F01, 0x0F03, So),
  (0x0F13, 0x0F13, So), (0x0F15, 0x0F17, So), (0x0F18, 0x0F19, M), (0x0F1A, 0x0F1F, So),
  (0x0F20, 0x0F29, Nd), (0x0F2A, 0x0F33, No), (0x0F34, 0x0F34, So), (0x0F35, 0x0F35, M),
  (0x0F36, 0x0F36, So), (0x0F37, 0x0F37, M), (0x0F38, 0x0F38, So), (0x0F39, 0x0F39, M),
  (0x0F3E, 0x0F3F, M), (0x0F40, 0x0F47, L), (0x0F49, 0x0F6C, L), (0x0F71, 0x0F84, M),
  (0x0F86, 0x0F87, M), (0x0F88, 0x0F8C, L), (0x0F8D, 0x0F97, M), (0x0F99, 0x0FBC, M),
  (0x0FBE, 0x0FC5, So), (0x0FC6, 0x0FC6, M), (0x0FC7, 0x0FCC, So), (0x0FCE, 0x0FCF, So),
  (0x0FD5, 0x0FD8, So), (0x1000, 0x102A, L), (0x102B, 0x103E, M), (0x103F, 0x103F, L),
  (0x1040, 0x1049, Nd), (0x1050, 0x1055, L), (0x1056, 0x1059, M), (0x105A, 0x105D, L),
  (0x105E, 0x1060, M), (0x1061, 0x1061, L), (0x1062, 0x1064, M), (0x1065, 0x1066, L),
  (0x1067, 0x106D, M), (0x106E, 0x1070, L), (0x1071, 0x1074, M), (0x1075, 0x1081, L)]

private def categoriesFrom1082 : CategoryTable := [
  (0x1082, 0x108D, M), (0x108E, 0x108E, L), (0x108F, 0x108F, M), (0x1090, 0x1099, Nd),
  (0x109A, 0x109D, M), (0x109E, 0x109F, So), (0x10A0, 0x10C5, L), (0x10C7, 0x10C7, L),
  (0x10CD, 0x10CD, L), (0x10D0, 0x10FA, L), (0x10FC, 0x1248, L), (0x124A, 0x124D, L),
  (0x1250, 0x1256, L), (0x1258, 0x1258, L), (0x125A, 0x125D, L), (0x1260, 0x1288, L),
  (0x128A, 0x128D, L), (0x1290, 0x12B0, L), (0x12B2, 0x12B5, L), (0x12B8, 0x12BE, L),
  (0x12C0, 0x12C0, L), (0x12C2, 0x12C5, L), (0x12C8, 0x12D6, L), (0x12D8, 0x1310, L),
  (0x1312, 0x1315, L), (0x1318, 0x135A, L), (0x135D, 0x135F, M), (0x1369, 0x137C, No),
  (0x1380, 0x138F, L), (0x1390, 0x1399, So), (0x13A0, 0x13F5, L), (0x13F8, 0x13FD, L),
  (0x1401, 0x166C, L), (0x166D, 0x166D, So), (0x166F, 0x167F, L), (0x1681, 0x169A, L),
  (0x16A0, 0x16EA, L), (0x16EE, 0x16F0, Nl), (0x16F1, 0x16F8, L), (0x1700, 0x1711, L),
  (0x1712, 0x1715, M), (0x171F, 0x1731, L), (0x1732, 0x1734, M), (0x1740, 0x1751, L),
  (0x1752, 0x1753, M), (0x1760, 0x176C, L), (0x176E, 0x1770, L), (0x1772, 0x1773, M),
  (0x1780, 0x17B3, L), (0x17B4, 0x17D3, M), (0x17D7, 0x17D7, L), (0x17DC, 0x17DC, L),
  (0x17DD, 0x17DD, M), (0x17E0, 0x17E9, Nd), (0x17F0, 0x17F9, No), (0x180B, 0x180D, M),
  (0x180E, 0x180E, Cf), (0x180F, 0x180F, M), (0x1810, 0x1819, Nd), (0x1820, 0x1878, L),
  (0x1880, 0x1884, L), (0x1885, 0x1886, M), (0x1887, 0x18A8, L), (0x18A9, 0x18A9, M),
  (0x18AA, 0x18AA, L), (0x18B0, 0x18F5, L), (0x1900, 0x191E, L), (0x1920, 0x192B, M),
  (0x1930, 0x193B, M), (0x1940, 0x1940, So), (0x1946, 0x194F, Nd), (0x1950, 0x196D, L),
  (0x1970, 0x1974, L), (0x1980, 0x19AB, L), (0x19B0, 0x19C9, L), (0x19D0, 0x19D9, Nd),
  (0x19DA, 0x19DA, No), (0x19DE, 0x19FF, So), (0x1A00, 0x1A16, L), (0x1A17, 0x1A1B, M),
  (0x1A20, 0x1A54, L), (0x1A55, 0x1A5E, M), (0x1A60, 0x1A7C, M), (0x1A7F, 0x1A7F, M),
  (0x1A80, 0x1A89, Nd), (0x1A90, 0x1A99, Nd), (0x1AA7, 0x1AA7, L), (0x1AB0, 0x1ABD, M),
  (0x1ABF, 0x1ADD, M), (0x1AE0, 0x1AEB, M), (0x1B00, 0x1B04, M), (0x1B05, 0x1B33, L),
  (0x1B34, 0x1B44, M), (0x1B45, 0x1B4C, L), (0x1B50, 0x1B59, Nd), (0x1B61, 0x1B6A, So),
  (0x1B6B, 0x1B73, M), (0x1B74, 0x1B7C, So), (0x1B80, 0x1B82, M), (0x1B83, 0x1BA0, L),
  (0x1BA1, 0x1BAD, M), (0x1BAE, 0x1BAF, L), (0x1BB0, 0x1BB9, Nd), (0x1BBA, 0x1BE5, L),
  (0x1BE6, 0x1BF3, M), (0x1C00, 0x1C23, L), (0x1C24, 0x1C37, M), (0x1C40, 0x1C49, Nd),
  (0x1C4D, 0x1C4F, L), (0x1C50, 0x1C59, Nd), (0x1C5A, 0x1C7D, L), (0x1C80, 0x1C8A, L),
  (0x1C90, 0x1CBA, L), (0x1CBD, 0x1CBF, L), (0x1CD0, 0x1CD2, M), (0x1CD4, 0x1CE8, M)]

private def categoriesFrom1CE9 : CategoryTable := [
  (0x1CE9, 0x1CEC, L), (0x1CED, 0x1CED, M), (0x1CEE, 0x1CF3, L), (0x1CF4, 0x1CF4, M),
  (0x1CF5, 0x1CF6, L), (0x1CF7, 0x1CF9, M), (0x1CFA, 0x1CFA, L), (0x1D00, 0x1DBF, L),
  (0x1DC0, 0x1DFF, M), (0x1E00, 0x1F15, L), (0x1F18, 0x1F1D, L), (0x1F20, 0x1F45, L),
  (0x1F48, 0x1F4D, L), (0x1F50, 0x1F57, L), (0x1F59, 0x1F59, L), (0x1F5B, 0x1F5B, L),
  (0x1F5D, 0x1F5D, L), (0x1F5F, 0x1F7D, L), (0x1F80, 0x1FB4, L), (0x1FB6, 0x1FBC, L),
  (0x1FBE, 0x1FBE, L), (0x1FC2, 0x1FC4, L), (0x1FC6, 0x1FCC, L), (0x1FD0, 0x1FD3, L),
  (0x1FD6, 0x1FDB, L), (0x1FE0, 0x1FEC, L), (0x1FF2, 0x1FF4, L), (0x1FF6, 0x1FFC, L),
  (0x200B, 0x200F, Cf), (0x202A, 0x202E, Cf), (0x203F, 0x2040, Pc), (0x2054, 0x2054, Pc),
  (0x2060, 0x2064, Cf), (0x2066, 0x206F, Cf), (0x2070, 0x2070, No), (0x2071, 0x2071, L),
  (0x2074, 0x2079, No), (0x207F, 0x207F, L), (0x2080, 0x2089, No), (0x2090, 0x209C, L),
  (0x20D0, 0x20DC, M), (0x20E1, 0x20E1, M), (0x20E5, 0x20F0, M), (0x2100, 0x2101, So),
  (0x2102, 0x2102, L), (0x2103, 0x2106, So), (0x2107, 0x2107, L), (0x2108, 0x2109, So),
  (0x210A, 0x2113, L), (0x2114, 0x2114, So), (0x2115, 0x2115, L), (0x2116, 0x2117, So),
  (0x2119, 0x211D, L), (0x211E, 0x2123, So), (0x2124, 0x2124, L), (0x2125, 0x2125, So),
  (0x2126, 0x2126, L), (0x2127, 0x2127, So), (0x2128, 0x2128, L), (0x2129, 0x2129, So),
  (0x212A, 0x212D, L), (0x212E, 0x212E, So), (0x212F, 0x2139, L), (0x213A, 0x213B, So),
  (0x213C, 0x213F, L), (0x2145, 0x2149, L), (0x214A, 0x214A, So), (0x214C, 0x214D, So),
  (0x214E, 0x214E, L), (0x214F, 0x214F, So), (0x2150, 0x215F, No), (0x2160, 0x2182, Nl),
  (0x2183, 0x2184, L), (0x2185, 0x2188, Nl), (0x2189, 0x2189, No), (0x218A, 0x218B, So),
  (0x2195, 0x2199, So), (0x219C, 0x219F, So), (0x21A1, 0x21A2, So), (0x21A4, 0x21A5, So),
  (0x21A7, 0x21AD, So), (0x21AF, 0x21CD, So), (0x21D0, 0x21D1, So), (0x21D3, 0x21D3, So),
  (0x21D5, 0x21F3, So), (0x2300, 0x2307, So), (0x230C, 0x231F, So), (0x2322, 0x2328, So),
  (0x232B, 0x237B, So), (0x237D, 0x239A, So), (0x23B4, 0x23DB, So), (0x23E2, 0x2429, So),
  (0x2440, 0x244A, So), (0x2460, 0x249B, No), (0x249C, 0x24E9, So), (0x24EA, 0x24FF, No),
  (0x2500, 0x25B6, So), (0x25B8, 0x25C0, So), (0x25C2, 0x25F7, So), (0x2600, 0x266E, So),
  (0x2670, 0x2767, So), (0x2776, 0x2793, No), (0x2794, 0x27BF, So), (0x2800, 0x28FF, So),
  (0x2B00, 0x2B2F, So), (0x2B45, 0x2B46, So), (0x2B4D, 0x2B73, So), (0x2B76, 0x2BFF, So),
  (0x2C00, 0x2CE4, L), (0x2CE5, 0x2CEA, So), (0x2CEB, 0x2CEE, L), (0x2CEF, 0x2CF1, M),
  (0x2CF2, 0x2CF3, L), (0x2CFD, 0x2CFD, No), (0x2D00, 0x2D25, L), (0x2D27, 0x2D27, L)]

private def categoriesFrom2D2D : CategoryTable := [
  (0x2D2D, 0x2D2D, L), (0x2D30, 0x2D67, L), (0x2D6F, 0x2D6F, L), (0x2D7F, 0x2D7F, M),
  (0x2D80, 0x2D96, L), (0x2DA0, 0x2DA6, L), (0x2DA8, 0x2DAE, L), (0x2DB0, 0x2DB6, L),
  (0x2DB8, 0x2DBE, L), (0x2DC0, 0x2DC6, L), (0x2DC8, 0x2DCE, L), (0x2DD0, 0x2DD6, L),
  (0x2DD8, 0x2DDE, L), (0x2DE0, 0x2DFF, M), (0x2E2F, 0x2E2F, L), (0x2E50, 0x2E51, So),
  (0x2E80, 0x2E99, So), (0x2E9B, 0x2EF3, So), (0x2F00, 0x2FD5, So), (0x2FF0, 0x2FFF, So),
  (0x3004, 0x3004, So), (0x3005, 0x3006, L), (0x3007, 0x3007, Nl), (0x3012, 0x3013, So),
  (0x3020, 0x3020, So), (0x3021, 0x3029, Nl), (0x302A, 0x302F, M), (0x3031, 0x3035, L),
  (0x3036, 0x3037, So), (0x3038, 0x303A, Nl), (0x303B, 0x303C, L), (0x303E, 0x303F, So),
  (0x3041, 0x3096, L), (0x3099, 0x309A, M), (0x309D, 0x309F, L), (0x30A1, 0x30FA, L),
  (0x30FC, 0x30FF, L), (0x3105, 0x312F, L), (0x3131, 0x318E, L), (0x3190, 0x3191, So),
  (0x3192, 0x3195, No), (0x3196, 0x319F, So), (0x31A0, 0x31BF, L), (0x31C0, 0x31E5, So),
  (0x31EF, 0x31EF, So), (0x31F0, 0x31FF, L), (0x3200, 0x321E, So), (0x3220, 0x3229, No),
  (0x322A, 0x3247, So), (0x3248, 0x324F, No), (0x3250, 0x3250, So), (0x3251, 0x325F, No),
  (0x3260, 0x327F, So), (0x3280, 0x3289, No), (0x328A, 0x32B0, So), (0x32B1, 0x32BF, No),
  (0x32C0, 0x33FF, So), (0x3400, 0x4DBF, L), (0x4DC0, 0x4DFF, So), (0x4E00, 0xA48C, L),
  (0xA490, 0xA4C6, So), (0xA4D0, 0xA4FD, L), (0xA500, 0xA60C, L), (0xA610, 0xA61F, L),
  (0xA620, 0xA629, Nd), (0xA62A, 0xA62B, L), (0xA640, 0xA66E, L), (0xA66F, 0xA66F, M),
  (0xA674, 0xA67D, M), (0xA67F, 0xA69D, L), (0xA69E, 0xA69F, M), (0xA6A0, 0xA6E5, L),
  (0xA6E6, 0xA6EF, Nl), (0xA6F0, 0xA6F1, M), (0xA717, 0xA71F, L), (0xA722, 0xA788, L),
  (0xA78B, 0xA7DC, L), (0xA7F1, 0xA801, L), (0xA802, 0xA802, M), (0xA803, 0xA805, L),
  (0xA806, 0xA806, M), (0xA807, 0xA80A, L), (0xA80B, 0xA80B, M), (0xA80C, 0xA822, L),
  (0xA823, 0xA827, M), (0xA828, 0xA82B, So), (0xA82C, 0xA82C, M), (0xA830, 0xA835, No),
  (0xA836, 0xA837, So), (0xA839, 0xA839, So), (0xA840, 0xA873, L), (0xA880, 0xA881, M),
  (0xA882, 0xA8B3, L), (0xA8B4, 0xA8C5, M), (0xA8D0, 0xA8D9, Nd), (0xA8E0, 0xA8F1, M),
  (0xA8F2, 0xA8F7, L), (0xA8FB, 0xA8FB, L), (0xA8FD, 0xA8FE, L), (0xA8FF, 0xA8FF, M),
  (0xA900, 0xA909, Nd), (0xA90A, 0xA925, L), (0xA926, 0xA92D, M), (0xA930, 0xA946, L),
  (0xA947, 0xA953, M), (0xA960, 0xA97C, L), (0xA980, 0xA983, M), (0xA984, 0xA9B2, L),
  (0xA9B3, 0xA9C0, M), (0xA9CF, 0xA9CF, L), (0xA9D0, 0xA9D9, Nd), (0xA9E0, 0xA9E4, L),
  (0xA9E5, 0xA9E5, M), (0xA9E6, 0xA9EF, L), (0xA9F0, 0xA9F9, Nd), (0xA9FA, 0xA9FE, L)]

private def categoriesFromAA00 : CategoryTable := [
  (0xAA00, 0xAA28, L), (0xAA29, 0xAA36, M), (0xAA40, 0xAA42, L), (0xAA43, 0xAA43, M),
  (0xAA44, 0xAA4B, L), (0xAA4C, 0xAA4D, M), (0xAA50, 0xAA59, Nd), (0xAA60, 0xAA76, L),
  (0xAA77, 0xAA79, So), (0xAA7A, 0xAA7A, L), (0xAA7B, 0xAA7D, M), (0xAA7E, 0xAAAF, L),
  (0xAAB0, 0xAAB0, M), (0xAAB1, 0xAAB1, L), (0xAAB2, 0xAAB4, M), (0xAAB5, 0xAAB6, L),
  (0xAAB7, 0xAAB8, M), (0xAAB9, 0xAABD, L), (0xAABE, 0xAABF, M), (0xAAC0, 0xAAC0, L),
  (0xAAC1, 0xAAC1, M), (0xAAC2, 0xAAC2, L), (0xAADB, 0xAADD, L), (0xAAE0, 0xAAEA, L),
  (0xAAEB, 0xAAEF, M), (0xAAF2, 0xAAF4, L), (0xAAF5, 0xAAF6, M), (0xAB01, 0xAB06, L),
  (0xAB09, 0xAB0E, L), (0xAB11, 0xAB16, L), (0xAB20, 0xAB26, L), (0xAB28, 0xAB2E, L),
  (0xAB30, 0xAB5A, L), (0xAB5C, 0xAB69, L), (0xAB70, 0xABE2, L), (0xABE3, 0xABEA, M),
  (0xABEC, 0xABED, M), (0xABF0, 0xABF9, Nd), (0xAC00, 0xD7A3, L), (0xD7B0, 0xD7C6, L),
  (0xD7CB, 0xD7FB, L), (0xF900, 0xFA6D, L), (0xFA70, 0xFAD9, L), (0xFB00, 0xFB06, L),
  (0xFB13, 0xFB17, L), (0xFB1D, 0xFB1D, L), (0xFB1E, 0xFB1E, M), (0xFB1F, 0xFB28, L),
  (0xFB2A, 0xFB36, L), (0xFB38, 0xFB3C, L), (0xFB3E, 0xFB3E, L), (0xFB40, 0xFB41, L),
  (0xFB43, 0xFB44, L), (0xFB46, 0xFBB1, L), (0xFBC3, 0xFBD2, So), (0xFBD3, 0xFD3D, L),
  (0xFD40, 0xFD4F, So), (0xFD50, 0xFD8F, L), (0xFD90, 0xFD91, So), (0xFD92, 0xFDC7, L),
  (0xFDC8, 0xFDCF, So), (0xFDF0, 0xFDFB, L), (0xFDFD, 0xFDFF, So), (0xFE00, 0xFE0F, M),
  (0xFE20, 0xFE2F, M), (0xFE33, 0xFE34, Pc), (0xFE4D, 0xFE4F, Pc), (0xFE70, 0xFE74, L),
  (0xFE76, 0xFEFC, L), (0xFEFF, 0xFEFF, Cf), (0xFF10, 0xFF19, Nd), (0xFF21, 0xFF3A, L),
  (0xFF3F, 0xFF3F, Pc), (0xFF41, 0xFF5A, L), (0xFF66, 0xFFBE, L), (0xFFC2, 0xFFC7, L),
  (0xFFCA, 0xFFCF, L), (0xFFD2, 0xFFD7, L), (0xFFDA, 0xFFDC, L), (0xFFE4, 0xFFE4, So),
  (0xFFE8, 0xFFE8, So), (0xFFED, 0xFFEE, So), (0xFFF9, 0xFFFB, Cf), (0xFFFC, 0xFFFD, So),
  (0x10000, 0x1000B, L), (0x1000D, 0x10026, L), (0x10028, 0x1003A, L), (0x1003C, 0x1003D, L),
  (0x1003F, 0x1004D, L), (0x10050, 0x1005D, L), (0x10080, 0x100FA, L), (0x10107, 0x10133, No),
  (0x10137, 0x1013F, So), (0x10140, 0x10174, Nl), (0x10175, 0x10178, No), (0x10179, 0x10189, So),
  (0x1018A, 0x1018B, No), (0x1018C, 0x1018E, So), (0x10190, 0x1019C, So), (0x101A0, 0x101A0, So),
  (0x101D0, 0x101FC, So), (0x101FD, 0x101FD, M), (0x10280, 0x1029C, L), (0x102A0, 0x102D0, L),
  (0x102E0, 0x102E0, M), (0x102E1, 0x102FB, No), (0x10300, 0x1031F, L), (0x10320, 0x10323, No),
  (0x1032D, 0x10340, L), (0x10341, 0x10341, Nl), (0x10342, 0x10349, L), (0x1034A, 0x1034A, Nl),
  (0x10350, 0x10375, L), (0x10376, 0x1037A, M), (0x10380, 0x1039D, L), (0x103A0, 0x103C3, L)]

private def categoriesFrom103C8 : CategoryTable := [
  (0x103C8, 0x103CF, L), (0x103D1, 0x103D5, Nl), (0x10400, 0x1049D, L), (0x104A0, 0x104A9, Nd),
  (0x104B0, 0x104D3, L), (0x104D8, 0x104FB, L), (0x10500, 0x10527, L), (0x10530, 0x10563, L),
  (0x10570, 0x1057A, L), (0x1057C, 0x1058A, L), (0x1058C, 0x10592, L), (0x10594, 0x10595, L),
  (0x10597, 0x105A1, L), (0x105A3, 0x105B1, L), (0x105B3, 0x105B9, L), (0x105BB, 0x105BC, L),
  (0x105C0, 0x105F3, L), (0x10600, 0x10736, L), (0x10740, 0x10755, L), (0x10760, 0x10767, L),
  (0x10780, 0x10785, L), (0x10787, 0x107B0, L), (0x107B2, 0x107BA, L), (0x10800, 0x10805, L),
  (0x10808, 0x10808, L), (0x1080A, 0x10835, L), (0x10837, 0x10838, L), (0x1083C, 0x1083C, L),
  (0x1083F, 0x10855, L), (0x10858, 0x1085F, No), (0x10860, 0x10876, L), (0x10877, 0x10878, So),
  (0x10879, 0x1087F, No), (0x10880, 0x1089E, L), (0x108A7, 0x108AF, No), (0x108E0, 0x108F2, L),
  (0x108F4, 0x108F5, L), (0x108FB, 0x108FF, No), (0x10900, 0x10915, L), (0x10916, 0x1091B, No),
  (0x10920, 0x10939, L), (0x10940, 0x10959, L), (0x10980, 0x109B7, L), (0x109BC, 0x109BD, No),
  (0x109BE, 0x109BF, L), (0x109C0, 0x109CF, No), (0x109D2, 0x109FF, No), (0x10A00, 0x10A00, L),
  (0x10A01, 0x10A03, M), (0x10A05, 0x10A06, M), (0x10A0C, 0x10A0F, M), (0x10A10, 0x10A13, L),
  (0x10A15, 0x10A17, L), (0x10A19, 0x10A35, L), (0x10A38, 0x10A3A, M), (0x10A3F, 0x10A3F, M),
  (0x10A40, 0x10A48, No), (0x10A60, 0x10A7C, L), (0x10A7D, 0x10A7E, No), (0x10A80, 0x10A9C, L),
  (0x10A9D, 0x10A9F, No), (0x10AC0, 0x10AC7, L), (0x10AC8, 0x10AC8, So), (0x10AC9, 0x10AE4, L),
  (0x10AE5, 0x10AE6, M), (0x10AEB, 0x10AEF, No), (0x10B00, 0x10B35, L), (0x10B40, 0x10B55, L),
  (0x10B58, 0x10B5F, No), (0x10B60, 0x10B72, L), (0x10B78, 0x10B7F, No), (0x10B80, 0x10B91, L),
  (0x10BA9, 0x10BAF, No), (0x10C00, 0x10C48, L), (0x10C80, 0x10CB2, L), (0x10CC0, 0x10CF2, L),
  (0x10CFA, 0x10CFF, No), (0x10D00, 0x10D23, L), (0x10D24, 0x10D27, M), (0x10D30, 0x10D39, Nd),
  (0x10D40, 0x10D49, Nd), (0x10D4A, 0x10D65, L), (0x10D69, 0x10D6D, M), (0x10D6F, 0x10D85, L),
  (0x10E60, 0x10E7E, No), (0x10E80, 0x10EA9, L), (0x10EAB, 0x10EAC, M), (0x10EB0, 0x10EB1, L),
  (0x10EC2, 0x10EC7, L), (0x10ED1, 0x10ED8, So), (0x10EFA, 0x10EFF, M), (0x10F00, 0x10F1C, L),
  (0x10F1D, 0x10F26, No), (0x10F27, 0x10F27, L), (0x10F30, 0x10F45, L), (0x10F46, 0x10F50, M),
  (0x10F51, 0x10F54, No), (0x10F70, 0x10F81, L), (0x10F82, 0x10F85, M), (0x10FB0, 0x10FC4, L),
  (0x10FC5, 0x10FCB, No), (0x10FE0, 0x10FF6, L), (0x11000, 0x11002, M), (0x11003, 0x11037, L),
  (0x11038, 0x11046, M), (0x11052, 0x11065, No), (0x11066, 0x1106F, Nd), (0x11070, 0x11070, M),
  (0x11071, 0x11072, L), (0x11073, 0x11074, M), (0x11075, 0x11075, L), (0x1107F, 0x11082, M),
  (0x11083, 0x110AF, L), (0x110B0, 0x110BA, M), (0x110BD, 0x110BD, Cf), (0x110C2, 0x110C2, M)]

private def categoriesFrom110CD : CategoryTable := [
  (0x110CD, 0x110CD, Cf), (0x110D0, 0x110E8, L), (0x110F0, 0x110F9, Nd), (0x11100, 0x11102, M),
  (0x11103, 0x11126, L), (0x11127, 0x11134, M), (0x11136, 0x1113F, Nd), (0x11144, 0x11144, L),
  (0x11145, 0x11146, M), (0x11147, 0x11147, L), (0x11150, 0x11172, L), (0x11173, 0x11173, M),
  (0x11176, 0x11176, L), (0x11180, 0x11182, M), (0x11183, 0x111B2, L), (0x111B3, 0x111C0, M),
  (0x111C1, 0x111C4, L), (0x111C9, 0x111CC, M), (0x111CE, 0x111CF, M), (0x111D0, 0x111D9, Nd),
  (0x111DA, 0x111DA, L), (0x111DC, 0x111DC, L), (0x111E1, 0x111F4, No), (0x11200, 0x11211, L),
  (0x11213, 0x1122B, L), (0x1122C, 0x11237, M), (0x1123E, 0x1123E, M), (0x1123F, 0x11240, L),
  (0x11241, 0x11241, M), (0x11280, 0x11286, L), (0x11288, 0x11288, L), (0x1128A, 0x1128D, L),
  (0x1128F, 0x1129D, L), (0x1129F, 0x112A8, L), (0x112B0, 0x112DE, L), (0x112DF, 0x112EA, M),
  (0x112F0, 0x112F9, Nd), (0x11300, 0x11303, M), (0x11305, 0x1130C, L), (0x1130F, 0x11310, L),
  (0x11313, 0x11328, L), (0x1132A, 0x11330, L), (0x11332, 0x11333, L), (0x11335, 0x11339, L),
  (0x1133B, 0x1133C, M), (0x1133D, 0x1133D, L), (0x1133E, 0x11344, M), (0x11347, 0x11348, M),
  (0x1134B, 0x1134D, M), (0x11350, 0x11350, L), (0x11357, 0x11357, M), (0x1135D, 0x11361, L),
  (0x11362, 0x11363, M), (0x11366, 0x1136C, M), (0x11370, 0x11374, M), (0x11380, 0x11389, L),
  (0x1138B, 0x1138B, L), (0x1138E, 0x1138E, L), (0x11390, 0x113B5, L), (0x113B7, 0x113B7, L),
  (0x113B8, 0x113C0, M), (0x113C2, 0x113C2, M), (0x113C5, 0x113C5, M), (0x113C7, 0x113CA, M),
  (0x113CC, 0x113D0, M), (0x113D1, 0x113D1, L), (0x113D2, 0x113D2, M), (0x113D3, 0x113D3, L),
  (0x113E1, 0x113E2, M), (0x11400, 0x11434, L), (0x11435, 0x11446, M), (0x11447, 0x1144A, L),
  (0x11450, 0x11459, Nd), (0x1145E, 0x1145E, M), (0x1145F, 0x11461, L), (0x11480, 0x114AF, L),
  (0x114B0, 0x114C3, M), (0x114C4, 0x114C5, L), (0x114C7, 0x114C7, L), (0x114D0, 0x114D9, Nd),
  (0x11580, 0x115AE, L), (0x115AF, 0x115B5, M), (0x115B8, 0x115C0, M), (0x115D8, 0x115DB, L),
  (0x115DC, 0x115DD, M), (0x11600, 0x1162F, L), (0x11630, 0x11640, M), (0x11644, 0x11644, L),
  (0x11650, 0x11659, Nd), (0x11680, 0x116AA, L), (0x116AB, 0x116B7, M), (0x116B8, 0x116B8, L),
  (0x116C0, 0x116C9, Nd), (0x116D0, 0x116E3, Nd), (0x11700, 0x1171A, L), (0x1171D, 0x1172B, M),
  (0x11730, 0x11739, Nd), (0x1173A, 0x1173B, No), (0x1173F, 0x1173F, So), (0x11740, 0x11746, L),
  (0x11800, 0x1182B, L), (0x1182C, 0x1183A, M), (0x118A0, 0x118DF, L), (0x118E0, 0x118E9, Nd),
  (0x118EA, 0x118F2, No), (0x118FF, 0x11906, L), (0x11909, 0x11909, L), (0x1190C, 0x11913, L),
  (0x11915, 0x11916, L), (0x11918, 0x1192F, L), (0x11930, 0x11935, M), (0x11937, 0x11938, M),
  (0x1193B, 0x1193E, M), (0x1193F, 0x1193F, L), (0x11940, 0x11940, M), (0x11941, 0x11941, L)]

private def categoriesFrom11942 : CategoryTable := [
  (0x11942, 0x11943, M), (0x11950, 0x11959, Nd), (0x119A0, 0x119A7, L), (0x119AA, 0x119D0, L),
  (0x119D1, 0x119D7, M), (0x119DA, 0x119E0, M), (0x119E1, 0x119E1, L), (0x119E3, 0x119E3, L),
  (0x119E4, 0x119E4, M), (0x11A00, 0x11A00, L), (0x11A01, 0x11A0A, M), (0x11A0B, 0x11A32, L),
  (0x11A33, 0x11A39, M), (0x11A3A, 0x11A3A, L), (0x11A3B, 0x11A3E, M), (0x11A47, 0x11A47, M),
  (0x11A50, 0x11A50, L), (0x11A51, 0x11A5B, M), (0x11A5C, 0x11A89, L), (0x11A8A, 0x11A99, M),
  (0x11A9D, 0x11A9D, L), (0x11AB0, 0x11AF8, L), (0x11B60, 0x11B67, M), (0x11BC0, 0x11BE0, L),
  (0x11BF0, 0x11BF9, Nd), (0x11C00, 0x11C08, L), (0x11C0A, 0x11C2E, L), (0x11C2F, 0x11C36, M),
  (0x11C38, 0x11C3F, M), (0x11C40, 0x11C40, L), (0x11C50, 0x11C59, Nd), (0x11C5A, 0x11C6C, No),
  (0x11C72, 0x11C8F, L), (0x11C92, 0x11CA7, M), (0x11CA9, 0x11CB6, M), (0x11D00, 0x11D06, L),
  (0x11D08, 0x11D09, L), (0x11D0B, 0x11D30, L), (0x11D31, 0x11D36, M), (0x11D3A, 0x11D3A, M),
  (0x11D3C, 0x11D3D, M), (0x11D3F, 0x11D45, M), (0x11D46, 0x11D46, L), (0x11D47, 0x11D47, M),
  (0x11D50, 0x11D59, Nd), (0x11D60, 0x11D65, L), (0x11D67, 0x11D68, L), (0x11D6A, 0x11D89, L),
  (0x11D8A, 0x11D8E, M), (0x11D90, 0x11D91, M), (0x11D93, 0x11D97, M), (0x11D98, 0x11D98, L),
  (0x11DA0, 0x11DA9, Nd), (0x11DB0, 0x11DDB, L), (0x11DE0, 0x11DE9, Nd), (0x11EE0, 0x11EF2, L),
  (0x11EF3, 0x11EF6, M), (0x11F00, 0x11F01, M), (0x11F02, 0x11F02, L), (0x11F03, 0x11F03, M),
  (0x11F04, 0x11F10, L), (0x11F12, 0x11F33, L), (0x11F34, 0x11F3A, M), (0x11F3E, 0x11F42, M),
  (0x11F50, 0x11F59, Nd), (0x11F5A, 0x11F5A, M), (0x11FB0, 0x11FB0, L), (0x11FC0, 0x11FD4, No),
  (0x11FD5, 0x11FDC, So), (0x11FE1, 0x11FF1, So), (0x12000, 0x12399, L), (0x12400, 0x1246E, Nl),
  (0x12480, 0x12543, L), (0x12F90, 0x12FF0, L), (0x13000, 0x1342F, L), (0x13430, 0x1343F, Cf),
  (0x13440, 0x13440, M), (0x13441, 0x13446, L), (0x13447, 0x13455, M), (0x13460, 0x143FA, L),
  (0x14400, 0x14646, L), (0x16100, 0x1611D, L), (0x1611E, 0x1612F, M), (0x16130, 0x16139, Nd),
  (0x16800, 0x16A38, L), (0x16A40, 0x16A5E, L), (0x16A60, 0x16A69, Nd), (0x16A70, 0x16ABE, L),
  (0x16AC0, 0x16AC9, Nd), (0x16AD0, 0x16AED, L), (0x16AF0, 0x16AF4, M), (0x16B00, 0x16B2F, L),
  (0x16B30, 0x16B36, M), (0x16B3C, 0x16B3F, So), (0x16B40, 0x16B43, L), (0x16B45, 0x16B45, So),
  (0x16B50, 0x16B59, Nd), (0x16B5B, 0x16B61, No), (0x16B63, 0x16B77, L), (0x16B7D, 0x16B8F, L),
  (0x16D40, 0x16D6C, L), (0x16D70, 0x16D79, Nd), (0x16E40, 0x16E7F, L), (0x16E80, 0x16E96, No),
  (0x16EA0, 0x16EB8, L), (0x16EBB, 0x16ED3, L), (0x16F00, 0x16F4A, L), (0x16F4F, 0x16F4F, M),
  (0x16F50, 0x16F50, L), (0x16F51, 0x16F87, M), (0x16F8F, 0x16F92, M), (0x16F93, 0x16F9F, L),
  (0x16FE0, 0x16FE1, L), (0x16FE3, 0x16FE3, L), (0x16FE4, 0x16FE4, M), (0x16FF0, 0x16FF1, M)]

private def categoriesFrom16FF2 : CategoryTable := [
  (0x16FF2, 0x16FF3, L), (0x16FF4, 0x16FF6, Nl), (0x17000, 0x18CD5, L), (0x18CFF, 0x18D1E, L),
  (0x18D80, 0x18DF2, L), (0x1AFF0, 0x1AFF3, L), (0x1AFF5, 0x1AFFB, L), (0x1AFFD, 0x1AFFE, L),
  (0x1B000, 0x1B122, L), (0x1B132, 0x1B132, L), (0x1B150, 0x1B152, L), (0x1B155, 0x1B155, L),
  (0x1B164, 0x1B167, L), (0x1B170, 0x1B2FB, L), (0x1BC00, 0x1BC6A, L), (0x1BC70, 0x1BC7C, L),
  (0x1BC80, 0x1BC88, L), (0x1BC90, 0x1BC99, L), (0x1BC9C, 0x1BC9C, So), (0x1BC9D, 0x1BC9E, M),
  (0x1BCA0, 0x1BCA3, Cf), (0x1CC00, 0x1CCEF, So), (0x1CCF0, 0x1CCF9, Nd), (0x1CCFA, 0x1CCFC, So),
  (0x1CD00, 0x1CEB3, So), (0x1CEBA, 0x1CED0, So), (0x1CEE0, 0x1CEEF, So), (0x1CF00, 0x1CF2D, M),
  (0x1CF30, 0x1CF46, M), (0x1CF50, 0x1CFC3, So), (0x1D000, 0x1D0F5, So), (0x1D100, 0x1D126, So),
  (0x1D129, 0x1D164, So), (0x1D165, 0x1D169, M), (0x1D16A, 0x1D16C, So), (0x1D16D, 0x1D172, M),
  (0x1D173, 0x1D17A, Cf), (0x1D17B, 0x1D182, M), (0x1D183, 0x1D184, So), (0x1D185, 0x1D18B, M),
  (0x1D18C, 0x1D1A9, So), (0x1D1AA, 0x1D1AD, M), (0x1D1AE, 0x1D1EA, So), (0x1D200, 0x1D241, So),
  (0x1D242, 0x1D244, M), (0x1D245, 0x1D245, So), (0x1D2C0, 0x1D2D3, No), (0x1D2E0, 0x1D2F3, No),
  (0x1D300, 0x1D356, So), (0x1D360, 0x1D378, No), (0x1D400, 0x1D454, L), (0x1D456, 0x1D49C, L),
  (0x1D49E, 0x1D49F, L), (0x1D4A2, 0x1D4A2, L), (0x1D4A5, 0x1D4A6, L), (0x1D4A9, 0x1D4AC, L),
  (0x1D4AE, 0x1D4B9, L), (0x1D4BB, 0x1D4BB, L), (0x1D4BD, 0x1D4C3, L), (0x1D4C5, 0x1D505, L),
  (0x1D507, 0x1D50A, L), (0x1D50D, 0x1D514, L), (0x1D516, 0x1D51C, L), (0x1D51E, 0x1D539, L),
  (0x1D53B, 0x1D53E, L), (0x1D540, 0x1D544, L), (0x1D546, 0x1D546, L), (0x1D54A, 0x1D550, L),
  (0x1D552, 0x1D6A5, L), (0x1D6A8, 0x1D6C0, L), (0x1D6C2, 0x1D6DA, L), (0x1D6DC, 0x1D6FA, L),
  (0x1D6FC, 0x1D714, L), (0x1D716, 0x1D734, L), (0x1D736, 0x1D74E, L), (0x1D750, 0x1D76E, L),
  (0x1D770, 0x1D788, L), (0x1D78A, 0x1D7A8, L), (0x1D7AA, 0x1D7C2, L), (0x1D7C4, 0x1D7CB, L),
  (0x1D7CE, 0x1D7FF, Nd), (0x1D800, 0x1D9FF, So), (0x1DA00, 0x1DA36, M), (0x1DA37, 0x1DA3A, So),
  (0x1DA3B, 0x1DA6C, M), (0x1DA6D, 0x1DA74, So), (0x1DA75, 0x1DA75, M), (0x1DA76, 0x1DA83, So),
  (0x1DA84, 0x1DA84, M), (0x1DA85, 0x1DA86, So), (0x1DA9B, 0x1DA9F, M), (0x1DAA1, 0x1DAAF, M),
  (0x1DF00, 0x1DF1E, L), (0x1DF25, 0x1DF2A, L), (0x1E000, 0x1E006, M), (0x1E008, 0x1E018, M),
  (0x1E01B, 0x1E021, M), (0x1E023, 0x1E024, M), (0x1E026, 0x1E02A, M), (0x1E030, 0x1E06D, L),
  (0x1E08F, 0x1E08F, M), (0x1E100, 0x1E12C, L), (0x1E130, 0x1E136, M), (0x1E137, 0x1E13D, L),
  (0x1E140, 0x1E149, Nd), (0x1E14E, 0x1E14E, L), (0x1E14F, 0x1E14F, So), (0x1E290, 0x1E2AD, L),
  (0x1E2AE, 0x1E2AE, M), (0x1E2C0, 0x1E2EB, L), (0x1E2EC, 0x1E2EF, M), (0x1E2F0, 0x1E2F9, Nd),
  (0x1E4D0, 0x1E4EB, L), (0x1E4EC, 0x1E4EF, M), (0x1E4F0, 0x1E4F9, Nd), (0x1E5D0, 0x1E5ED, L)]

private def categoriesFrom1E5EE : CategoryTable := [
  (0x1E5EE, 0x1E5EF, M), (0x1E5F0, 0x1E5F0, L), (0x1E5F1, 0x1E5FA, Nd), (0x1E6C0, 0x1E6DE, L),
  (0x1E6E0, 0x1E6E2, L), (0x1E6E3, 0x1E6E3, M), (0x1E6E4, 0x1E6E5, L), (0x1E6E6, 0x1E6E6, M),
  (0x1E6E7, 0x1E6ED, L), (0x1E6EE, 0x1E6EF, M), (0x1E6F0, 0x1E6F4, L), (0x1E6F5, 0x1E6F5, M),
  (0x1E6FE, 0x1E6FF, L), (0x1E7E0, 0x1E7E6, L), (0x1E7E8, 0x1E7EB, L), (0x1E7ED, 0x1E7EE, L),
  (0x1E7F0, 0x1E7FE, L), (0x1E800, 0x1E8C4, L), (0x1E8C7, 0x1E8CF, No), (0x1E8D0, 0x1E8D6, M),
  (0x1E900, 0x1E943, L), (0x1E944, 0x1E94A, M), (0x1E94B, 0x1E94B, L), (0x1E950, 0x1E959, Nd),
  (0x1EC71, 0x1ECAB, No), (0x1ECAC, 0x1ECAC, So), (0x1ECAD, 0x1ECAF, No), (0x1ECB1, 0x1ECB4, No),
  (0x1ED01, 0x1ED2D, No), (0x1ED2E, 0x1ED2E, So), (0x1ED2F, 0x1ED3D, No), (0x1EE00, 0x1EE03, L),
  (0x1EE05, 0x1EE1F, L), (0x1EE21, 0x1EE22, L), (0x1EE24, 0x1EE24, L), (0x1EE27, 0x1EE27, L),
  (0x1EE29, 0x1EE32, L), (0x1EE34, 0x1EE37, L), (0x1EE39, 0x1EE39, L), (0x1EE3B, 0x1EE3B, L),
  (0x1EE42, 0x1EE42, L), (0x1EE47, 0x1EE47, L), (0x1EE49, 0x1EE49, L), (0x1EE4B, 0x1EE4B, L),
  (0x1EE4D, 0x1EE4F, L), (0x1EE51, 0x1EE52, L), (0x1EE54, 0x1EE54, L), (0x1EE57, 0x1EE57, L),
  (0x1EE59, 0x1EE59, L), (0x1EE5B, 0x1EE5B, L), (0x1EE5D, 0x1EE5D, L), (0x1EE5F, 0x1EE5F, L),
  (0x1EE61, 0x1EE62, L), (0x1EE64, 0x1EE64, L), (0x1EE67, 0x1EE6A, L), (0x1EE6C, 0x1EE72, L),
  (0x1EE74, 0x1EE77, L), (0x1EE79, 0x1EE7C, L), (0x1EE7E, 0x1EE7E, L), (0x1EE80, 0x1EE89, L),
  (0x1EE8B, 0x1EE9B, L), (0x1EEA1, 0x1EEA3, L), (0x1EEA5, 0x1EEA9, L), (0x1EEAB, 0x1EEBB, L),
  (0x1F000, 0x1F02B, So), (0x1F030, 0x1F093, So), (0x1F0A0, 0x1F0AE, So), (0x1F0B1, 0x1F0BF, So),
  (0x1F0C1, 0x1F0CF, So), (0x1F0D1, 0x1F0F5, So), (0x1F100, 0x1F10C, No), (0x1F10D, 0x1F1AD, So),
  (0x1F1E6, 0x1F202, So), (0x1F210, 0x1F23B, So), (0x1F240, 0x1F248, So), (0x1F250, 0x1F251, So),
  (0x1F260, 0x1F265, So), (0x1F300, 0x1F3FA, So), (0x1F400, 0x1F6D8, So), (0x1F6DC, 0x1F6EC, So),
  (0x1F6F0, 0x1F6FC, So), (0x1F700, 0x1F7D9, So), (0x1F7E0, 0x1F7EB, So), (0x1F7F0, 0x1F7F0, So),
  (0x1F800, 0x1F80B, So), (0x1F810, 0x1F847, So), (0x1F850, 0x1F859, So), (0x1F860, 0x1F887, So),
  (0x1F890, 0x1F8AD, So), (0x1F8B0, 0x1F8BB, So), (0x1F8C0, 0x1F8C1, So), (0x1F900, 0x1FA57, So),
  (0x1FA60, 0x1FA6D, So), (0x1FA70, 0x1FA7C, So), (0x1FA80, 0x1FA8A, So), (0x1FA8E, 0x1FAC6, So),
  (0x1FAC8, 0x1FAC8, So), (0x1FACD, 0x1FADC, So), (0x1FADF, 0x1FAEA, So), (0x1FAEF, 0x1FAF8, So),
  (0x1FB00, 0x1FB92, So), (0x1FB94, 0x1FBEF, So), (0x1FBF0, 0x1FBF9, Nd), (0x1FBFA, 0x1FBFA, So),
  (0x20000, 0x2A6DF, L), (0x2A700, 0x2B81D, L), (0x2B820, 0x2CEAD, L), (0x2CEB0, 0x2EBE0, L),
  (0x2EBF0, 0x2EE5D, L), (0x2F800, 0x2FA1D, L), (0x30000, 0x3134A, L), (0x31350, 0x33479, L),
  (0xE0001, 0xE0001, Cf), (0xE0020, 0xE007F, Cf), (0xE0100, 0xE01EF, M)]

/-- The code points of the categories that matter to names. -/
def categories : CategoryTable :=
  categoriesFrom0030 ++
  categoriesFrom0985 ++
  categoriesFrom0C7F ++
  categoriesFrom1082 ++
  categoriesFrom1CE9 ++
  categoriesFrom2D2D ++
  categoriesFromAA00 ++
  categoriesFrom103C8 ++
  categoriesFrom110CD ++
  categoriesFrom11942 ++
  categoriesFrom16FF2 ++
  categoriesFrom1E5EE

/-- The general category of `c`. -/
def category (c : Char) : Category := categories.find c.toNat

/-! ### The categories of a range -/

namespace CodePoints

/-- The code points of the ranges that lie beyond `last`. -/
def beyond (last : Nat) : CodePoints → CodePoints
  | [] => []
  | (a, b) :: rest =>
    if b ≤ last then beyond last rest
    else if last < a then (a, b) :: rest
    else (last + 1, b) :: rest

/-- Whether each code point of the ranges has one of the categories `allowed`.  A row of the
table must not begin behind the ranges that are left, and if they begin in it, its category has to
be allowed. -/
def isWithin (allowed : List Category) : CategoryTable → CodePoints → Bool
  | _, [] => true
  | [], _ :: _ => false
  | (first, last, category) :: rows, (a, b) :: rest =>
    decide (first ≤ a) && (decide (last < a) || decide (category ∈ allowed)) &&
      isWithin allowed rows (beyond last ((a, b) :: rest))

theorem has_beyond {ranges : CodePoints} {last n : Nat} (h : ranges.has n = true)
    (hn : last < n) :
  (ranges.beyond last).has n = true
  := by
  induction ranges with
  | nil => cases h
  | cons r rest ih =>
    obtain ⟨a, b⟩ := r
    have hhas := h
    rw [has, Bool.and_eq_true, Bool.or_eq_true, decide_eq_true_eq, decide_eq_true_eq] at h
    obtain ⟨ha, hb⟩ := h
    rw [beyond]
    split
    case isTrue hlast =>
      -- The range ends before `n`, which is in one of the others then.
      apply ih
      apply hb.resolve_left
      omega
    case isFalse =>
      split
      case isTrue => exact hhas
      case isFalse =>
        rw [has, Bool.and_eq_true, Bool.or_eq_true, decide_eq_true_eq, decide_eq_true_eq]
        exact ⟨hn, hb⟩

/-- A code point of ranges that are within some categories has one of these. -/
theorem find_mem_of_isWithin {allowed : List Category} {table : CategoryTable}
    {ranges : CodePoints} {n : Nat} (h : isWithin allowed table ranges = true)
    (hn : ranges.has n = true) :
  table.find n ∈ allowed
  := by
  induction table generalizing ranges with
  | nil =>
    cases ranges with
    | nil => cases hn
    | cons r rest => cases h
  | cons row rows ih =>
    obtain ⟨first, last, category⟩ := row
    cases ranges with
    | nil => cases hn
    | cons r rest =>
      obtain ⟨a, b⟩ := r
      rw [isWithin, Bool.and_eq_true, Bool.and_eq_true, Bool.or_eq_true, decide_eq_true_eq,
        decide_eq_true_eq, decide_eq_true_eq] at h
      obtain ⟨⟨hfirst, hcategory⟩, hrows⟩ := h
      -- The row begins no later than the ranges that are left, and these no later than `n`.
      have ha : a ≤ n := by
        rw [has, Bool.and_eq_true, decide_eq_true_eq] at hn
        exact hn.1
      rw [CategoryTable.find, if_neg (by omega)]
      split
      case isTrue hlast =>
        apply hcategory.resolve_left
        omega
      case isFalse hlast =>
        apply ih hrows
        exact has_beyond hn (by omega)

end CodePoints

/-- What is alphabetic is a letter, a letter number, a mark or a symbol. -/
theorem category_mem_of_isAlphabetic {c : Char} (h : isAlphabetic c = true) :
  category c ∈ [.letter, .letterNumber, .mark, .symbol]
  := CodePoints.find_mem_of_isWithin (by decide +kernel) h

/-- What is numeric is a decimal digit, a letter number or another number. -/
theorem category_mem_of_isNumeric {c : Char} (h : isNumeric c = true) :
  category c ∈ [.decimalDigit, .letterNumber, .otherNumber]
  := CodePoints.find_mem_of_isWithin (by decide +kernel) h

end AliasBinding.Text
