import SearchSql.Text.Canonical.Decomposition
import SearchSql.Text.Quoted

/-!
# What the characters of a domain stand for

A domain may be written in capitals, and with other forms of characters that only differ in looks.
They stand for the plain characters; some characters are left out, and some no domain can hold.
-/

namespace SearchSql.Http.Domain

open SearchSql.Text SearchSql.Text.Run

/-- Characters in equal steps that stand for those at a constant distance. -/
structure Shift where
  first : Nat
  last : Nat
  step : Nat
  distance : Int

/-- The characters that are mapped in steps: cases, and letters in other styles. -/
def shifts : List Shift := [
  ⟨0x0041, 0x005a, 1, 32⟩, ⟨0x0246, 0x024e, 2, 1⟩, ⟨0x0391, 0x03a1, 1, 32⟩, ⟨0x03a3, 0x03a9, 1, 32⟩,
  ⟨0x03d8, 0x03ee, 2, 1⟩, ⟨0x03fd, 0x03ff, 1, -130⟩, ⟨0x0404, 0x0406, 1, 80⟩,
  ⟨0x0408, 0x040b, 1, 80⟩, ⟨0x0410, 0x0418, 1, 32⟩, ⟨0x041a, 0x042f, 1, 32⟩, ⟨0x0460, 0x0474, 2, 1⟩,
  ⟨0x0478, 0x0480, 2, 1⟩, ⟨0x048a, 0x04be, 2, 1⟩, ⟨0x04c3, 0x04cd, 2, 1⟩, ⟨0x04fa, 0x052e, 2, 1⟩,
  ⟨0x0531, 0x0556, 1, 48⟩, ⟨0x10a0, 0x10c5, 1, 7264⟩, ⟨0x13f8, 0x13fd, 1, -8⟩,
  ⟨0x1c90, 0x1cba, 1, -3008⟩, ⟨0x1cbd, 0x1cbf, 1, -3008⟩, ⟨0x1d33, 0x1d3a, 1, -7372⟩,
  ⟨0x1d5d, 0x1d5f, 1, -6571⟩, ⟨0x1da4, 0x1da6, 1, -6972⟩, ⟨0x1dae, 0x1db1, 1, -6972⟩,
  ⟨0x1dbc, 0x1dbe, 1, -6956⟩, ⟨0x1efa, 0x1efe, 2, 1⟩, ⟨0x2074, 0x2079, 1, -8256⟩,
  ⟨0x2080, 0x2089, 1, -8272⟩, ⟨0x2096, 0x2099, 1, -8235⟩, ⟨0x2119, 0x211b, 1, -8361⟩,
  ⟨0x2135, 0x2138, 1, -7013⟩, ⟨0x2460, 0x2468, 1, -9263⟩, ⟨0x24b6, 0x24cf, 1, -9301⟩,
  ⟨0x24d0, 0x24e9, 1, -9327⟩, ⟨0x2c00, 0x2c2f, 1, 48⟩, ⟨0x2c67, 0x2c6b, 2, 1⟩,
  ⟨0x2c80, 0x2ce2, 2, 1⟩, ⟨0x3137, 0x3139, 1, -8244⟩, ⟨0x313a, 0x313f, 1, -8074⟩,
  ⟨0x3141, 0x3143, 1, -8251⟩, ⟨0x3145, 0x314e, 1, -8252⟩, ⟨0x314f, 0x3163, 1, -8174⟩,
  ⟨0x3178, 0x317c, 1, -8269⟩, ⟨0x3184, 0x3186, 1, -8237⟩, ⟨0x3263, 0x3265, 1, -8542⟩,
  ⟨0x3269, 0x326d, 1, -8539⟩, ⟨0x32e4, 0x32e9, 1, -538⟩, ⟨0x32ee, 0x32f2, 1, -528⟩,
  ⟨0x32f5, 0x32fa, 1, -525⟩, ⟨0x32fb, 0x32fe, 1, -524⟩, ⟨0xa640, 0xa66c, 2, 1⟩,
  ⟨0xa680, 0xa69a, 2, 1⟩, ⟨0xa722, 0xa72e, 2, 1⟩, ⟨0xa732, 0xa76e, 2, 1⟩, ⟨0xa77e, 0xa786, 2, 1⟩,
  ⟨0xa796, 0xa7a8, 2, 1⟩, ⟨0xa7b4, 0xa7c2, 2, 1⟩, ⟨0xa7cc, 0xa7da, 2, 1⟩,
  ⟨0xab70, 0xabbf, 1, -38864⟩, ⟨0xfb24, 0xfb26, 1, -62793⟩, ⟨0xfe41, 0xfe44, 1, -52789⟩,
  ⟨0xff01, 0xff20, 1, -65248⟩, ⟨0xff21, 0xff3a, 1, -65216⟩, ⟨0xff3b, 0xff5e, 1, -65248⟩,
  ⟨0xff85, 0xff8a, 1, -52923⟩, ⟨0xff8f, 0xff93, 1, -52913⟩, ⟨0xff96, 0xff9b, 1, -52910⟩,
  ⟨0xffa7, 0xffa9, 1, -61092⟩, ⟨0xffaa, 0xffaf, 1, -60922⟩, ⟨0xffb1, 0xffb3, 1, -61099⟩,
  ⟨0xffb5, 0xffbe, 1, -61100⟩, ⟨0xffc2, 0xffc7, 1, -61025⟩, ⟨0xffca, 0xffcf, 1, -61027⟩,
  ⟨0xffd2, 0xffd7, 1, -61029⟩, ⟨0xffda, 0xffdc, 1, -61031⟩, ⟨0xffe9, 0xffec, 1, -56921⟩,
  ⟨0x10400, 0x10427, 1, 40⟩, ⟨0x104b0, 0x104d3, 1, 40⟩, ⟨0x10570, 0x1057a, 1, 39⟩,
  ⟨0x1057c, 0x1058a, 1, 39⟩, ⟨0x1058c, 0x10592, 1, 39⟩, ⟨0x107b6, 0x107b8, 1, -67062⟩,
  ⟨0x10c80, 0x10cb2, 1, 64⟩, ⟨0x10d50, 0x10d65, 1, 32⟩, ⟨0x118a0, 0x118bf, 1, 32⟩,
  ⟨0x16e40, 0x16e5f, 1, 32⟩, ⟨0x16ea0, 0x16eb8, 1, 27⟩, ⟨0x1ccd6, 0x1ccef, 1, -117877⟩,
  ⟨0x1ccf0, 0x1ccf9, 1, -117952⟩, ⟨0x1d400, 0x1d419, 1, -119711⟩, ⟨0x1d41a, 0x1d433, 1, -119737⟩,
  ⟨0x1d434, 0x1d44d, 1, -119763⟩, ⟨0x1d44e, 0x1d454, 1, -119789⟩, ⟨0x1d456, 0x1d467, 1, -119789⟩,
  ⟨0x1d468, 0x1d481, 1, -119815⟩, ⟨0x1d482, 0x1d49b, 1, -119841⟩, ⟨0x1d4a9, 0x1d4ac, 1, -119867⟩,
  ⟨0x1d4ae, 0x1d4b5, 1, -119867⟩, ⟨0x1d4b6, 0x1d4b9, 1, -119893⟩, ⟨0x1d4bd, 0x1d4c3, 1, -119893⟩,
  ⟨0x1d4c5, 0x1d4cf, 1, -119893⟩, ⟨0x1d4d0, 0x1d4e9, 1, -119919⟩, ⟨0x1d4ea, 0x1d503, 1, -119945⟩,
  ⟨0x1d507, 0x1d50a, 1, -119971⟩, ⟨0x1d50d, 0x1d514, 1, -119971⟩, ⟨0x1d516, 0x1d51c, 1, -119971⟩,
  ⟨0x1d51e, 0x1d537, 1, -119997⟩, ⟨0x1d53b, 0x1d53e, 1, -120023⟩, ⟨0x1d540, 0x1d544, 1, -120023⟩,
  ⟨0x1d54a, 0x1d550, 1, -120023⟩, ⟨0x1d552, 0x1d56b, 1, -120049⟩, ⟨0x1d56c, 0x1d585, 1, -120075⟩,
  ⟨0x1d586, 0x1d59f, 1, -120101⟩, ⟨0x1d5a0, 0x1d5b9, 1, -120127⟩, ⟨0x1d5ba, 0x1d5d3, 1, -120153⟩,
  ⟨0x1d5d4, 0x1d5ed, 1, -120179⟩, ⟨0x1d5ee, 0x1d607, 1, -120205⟩, ⟨0x1d608, 0x1d621, 1, -120231⟩,
  ⟨0x1d622, 0x1d63b, 1, -120257⟩, ⟨0x1d63c, 0x1d655, 1, -120283⟩, ⟨0x1d656, 0x1d66f, 1, -120309⟩,
  ⟨0x1d670, 0x1d689, 1, -120335⟩, ⟨0x1d68a, 0x1d6a3, 1, -120361⟩, ⟨0x1d6a8, 0x1d6b8, 1, -119543⟩,
  ⟨0x1d6ba, 0x1d6c0, 1, -119543⟩, ⟨0x1d6c2, 0x1d6d2, 1, -119569⟩, ⟨0x1d6d4, 0x1d6da, 1, -119569⟩,
  ⟨0x1d6e2, 0x1d6f2, 1, -119601⟩, ⟨0x1d6f4, 0x1d6fa, 1, -119601⟩, ⟨0x1d6fc, 0x1d70c, 1, -119627⟩,
  ⟨0x1d70e, 0x1d714, 1, -119627⟩, ⟨0x1d71c, 0x1d72c, 1, -119659⟩, ⟨0x1d72e, 0x1d734, 1, -119659⟩,
  ⟨0x1d736, 0x1d746, 1, -119685⟩, ⟨0x1d748, 0x1d74e, 1, -119685⟩, ⟨0x1d756, 0x1d766, 1, -119717⟩,
  ⟨0x1d768, 0x1d76e, 1, -119717⟩, ⟨0x1d770, 0x1d780, 1, -119743⟩, ⟨0x1d782, 0x1d788, 1, -119743⟩,
  ⟨0x1d790, 0x1d7a0, 1, -119775⟩, ⟨0x1d7a2, 0x1d7a8, 1, -119775⟩, ⟨0x1d7aa, 0x1d7ba, 1, -119801⟩,
  ⟨0x1d7bc, 0x1d7c2, 1, -119801⟩, ⟨0x1d7ce, 0x1d7d7, 1, -120734⟩, ⟨0x1d7d8, 0x1d7e1, 1, -120744⟩,
  ⟨0x1d7e2, 0x1d7eb, 1, -120754⟩, ⟨0x1d7ec, 0x1d7f5, 1, -120764⟩, ⟨0x1d7f6, 0x1d7ff, 1, -120774⟩,
  ⟨0x1e030, 0x1e038, 1, -121856⟩, ⟨0x1e039, 0x1e03b, 1, -121855⟩, ⟨0x1e03c, 0x1e046, 1, -121854⟩,
  ⟨0x1e051, 0x1e059, 1, -121889⟩, ⟨0x1e05f, 0x1e064, 1, -121884⟩, ⟨0x1e900, 0x1e921, 1, 34⟩,
  ⟨0x1ee0a, 0x1ee0d, 1, -124871⟩, ⟨0x1ee2a, 0x1ee2d, 1, -124903⟩, ⟨0x1ee8b, 0x1ee8d, 1, -124999⟩,
  ⟨0x1eeab, 0x1eead, 1, -125031⟩, ⟨0x1f130, 0x1f149, 1, -127183⟩, ⟨0x1fbf0, 0x1fbf9, 1, -129984⟩]

/-- The other characters that stand for one character or more. -/
def texts : List Run := [
  textsFrom 0x00a0 " ", textsFrom 0x00a8 " \u0308", textsFrom 0x00aa "a",
  textsFrom 0x00af " \u0304", textsFrom 0x00b2 "2|3| \u0301|μ", textsFrom 0x00b8 " \u0327|1|o",
  textsFrom 0x00bc "1\u20444|1\u20442|3\u20444", textsFrom 0x00c6 "æ", textsFrom 0x00d0 "ð",
  textsFrom 0x00d8 "ø", textsFrom 0x00de "þ", textsFrom 0x0110 "đ", textsFrom 0x0126 "ħ",
  textsFrom 0x0132 "ij|ij", textsFrom 0x013f "l·|l·|ł", textsFrom 0x0149 "ʼn|ŋ",
  textsFrom 0x0152 "œ", textsFrom 0x0166 "ŧ", textsFrom 0x017f "s", textsFrom 0x0181 "ɓ|ƃ",
  textsFrom 0x0184 "ƅ", textsFrom 0x0186 "ɔ|ƈ", textsFrom 0x0189 "ɖ|ɗ|ƌ",
  textsFrom 0x018e "ǝ|ə|ɛ|ƒ", textsFrom 0x0193 "ɠ|ɣ", textsFrom 0x0196 "ɩ|ɨ|ƙ",
  textsFrom 0x019c "ɯ|ɲ", textsFrom 0x019f "ɵ", textsFrom 0x01a2 "ƣ", textsFrom 0x01a4 "ƥ",
  textsFrom 0x01a6 "ʀ|ƨ", textsFrom 0x01a9 "ʃ", textsFrom 0x01ac "ƭ", textsFrom 0x01ae "ʈ",
  textsFrom 0x01b1 "ʊ|ʋ|ƴ", textsFrom 0x01b5 "ƶ", textsFrom 0x01b7 "ʒ|ƹ", textsFrom 0x01bc "ƽ",
  textsFrom 0x01c4 "dž|dž|dž|lj|lj|lj|nj|nj|nj", textsFrom 0x01e4 "ǥ", textsFrom 0x01f1 "dz|dz|dz",
  textsFrom 0x01f6 "ƕ|ƿ", textsFrom 0x021c "ȝ", textsFrom 0x0220 "ƞ", textsFrom 0x0222 "ȣ",
  textsFrom 0x0224 "ȥ", textsFrom 0x023a "ⱥ|ȼ", textsFrom 0x023d "ƚ|ⱦ", textsFrom 0x0241 "ɂ",
  textsFrom 0x0243 "ƀ|ʉ|ʌ", textsFrom 0x02b0 "h|ɦ|j|r|ɹ|ɻ|ʁ|w|y",
  textsFrom 0x02d8 " \u0306| \u0307| \u030a| \u0328| \u0303| \u030b", textsFrom 0x02e0 "ɣ|l|s|x|ʕ",
  textsFrom 0x0345 "ι", textsFrom 0x0370 "ͱ", textsFrom 0x0372 "ͳ", textsFrom 0x0376 "ͷ",
  textsFrom 0x037a " ι", textsFrom 0x037f "ϳ", textsFrom 0x0384 " \u0301",
  textsFrom 0x03cf "ϗ|β|θ|υ", textsFrom 0x03d5 "φ|π", textsFrom 0x03f0 "κ|ρ|σ",
  textsFrom 0x03f4 "θ|ε", textsFrom 0x03f7 "ϸ", textsFrom 0x03f9 "σ|ϻ", textsFrom 0x0402 "ђ",
  textsFrom 0x040f "џ", textsFrom 0x04c0 "ӏ", textsFrom 0x04d4 "ӕ", textsFrom 0x04d8 "ә",
  textsFrom 0x04e0 "ӡ", textsFrom 0x04e8 "ө", textsFrom 0x04f6 "ӷ", textsFrom 0x0587 "եւ",
  textsFrom 0x0675 "\u0627\u0674|\u0648\u0674|\u06c7\u0674|\u064a\u0674",
  textsFrom 0x0e33 "\u0e4dา", textsFrom 0x0eb3 "\u0ecdາ", textsFrom 0x0edc "ຫນ|ຫມ",
  textsFrom 0x0f0c "་", textsFrom 0x0f77 "\u0fb2\u0f71\u0f80",
  textsFrom 0x0f79 "\u0fb3\u0f71\u0f80", textsFrom 0x10c7 "ⴧ", textsFrom 0x10cd "ⴭ",
  textsFrom 0x10fc "ნ", textsFrom 0x1c80 "в|д|о|с|т|т|ъ|ѣ|ꙋ|ᲊ", textsFrom 0x1d2c "a|æ|b",
  textsFrom 0x1d30 "d|e|ǝ", textsFrom 0x1d3c "o|ȣ|p|r|t|u|w|a|ɐ|ɑ|ᴂ|b|d|e|ə|ɛ|ɜ|g",
  textsFrom 0x1d4f "k|m|ŋ|o|ɔ|ᴖ|ᴗ|p|t|u|ᴝ|ɯ|v|ᴥ", textsFrom 0x1d60 "φ|χ|i|r|u|v|β|γ|ρ|φ|χ",
  textsFrom 0x1d78 "н", textsFrom 0x1d9b "ɒ|c|ɕ|ð|ɜ|f|ɟ|ɡ|ɥ", textsFrom 0x1da7 "ᵻ|ʝ|ɭ|ᶅ|ʟ|ɱ|ɰ",
  textsFrom 0x1db2 "ɸ|ʂ|ʃ|ƫ|ʉ|ʊ|ᴜ|ʋ|ʌ|z", textsFrom 0x1dbf "θ", textsFrom 0x1e9a "aʾ",
  textsFrom 0x1e9e "ß", textsFrom 0x1fbd " \u0313", textsFrom 0x1fbf " \u0313| \u0342",
  textsFrom 0x1ffe " \u0314", textsFrom 0x2002 " | | | | | | | | ", textsFrom 0x2011 "\u2010",
  textsFrom 0x2017 " \u0333", textsFrom 0x202f " ",
  textsFrom 0x2033 "\u2032\u2032|\u2032\u2032\u2032",
  textsFrom 0x2036 "\u2035\u2035|\u2035\u2035\u2035", textsFrom 0x203c "!!",
  textsFrom 0x203e " \u0305", textsFrom 0x2047 "??|?!|!?",
  textsFrom 0x2057 "\u2032\u2032\u2032\u2032", textsFrom 0x205f " ", textsFrom 0x2070 "0|i",
  textsFrom 0x207a "+|−|=|(|)|n", textsFrom 0x208a "+|−|=|(|)", textsFrom 0x2090 "a|e|o|x|ə|h",
  textsFrom 0x209a "p|s|t", textsFrom 0x20a8 "rs", textsFrom 0x2100 "a/c|a/s|c|°c",
  textsFrom 0x2105 "c/o|c/u|ɛ", textsFrom 0x2109 "°f|g|h|h|h|h|ħ|i|i|l|l", textsFrom 0x2115 "n|no",
  textsFrom 0x211c "r|r", textsFrom 0x2120 "sm|tel|tm", textsFrom 0x2124 "z", textsFrom 0x2128 "z",
  textsFrom 0x212c "b|c", textsFrom 0x212f "e|e|f|ⅎ|m|o", textsFrom 0x2139 "i",
  textsFrom 0x213b "fax|π|γ|γ|π|∑", textsFrom 0x2145 "d|d|e|i|j",
  textsFrom 0x2150 "1\u20447|1\u20449|1\u204410|1\u20443|2\u20443|1\u20445|2\u20445|3\u20445",
  textsFrom 0x2158 "4\u20445|1\u20446|5\u20446|1\u20448|3\u20448|5\u20448|7\u20448|1\u2044|i|ii",
  textsFrom 0x2162 "iii|iv|v|vi|vii|viii|ix|x|xi|xii|l|c|d|m|i|ii|iii|iv|v|vi|vii|viii|ix|x|xi|xii",
  textsFrom 0x217c "l|c|d|m", textsFrom 0x2183 "ↄ", textsFrom 0x2189 "0\u20443",
  textsFrom 0x222c "∫∫|∫∫∫", textsFrom 0x222f "∮∮|∮∮∮",
  textsFrom 0x2469 "10|11|12|13|14|15|16|17|18|19|20|(1)|(2)|(3)|(4)|(5)|(6)|(7)|(8)|(9)|(10)|(11)",
  textsFrom 0x247f "(12)|(13)|(14)|(15)|(16)|(17)|(18)|(19)|(20)",
  textsFrom 0x249c "(a)|(b)|(c)|(d)|(e)|(f)|(g)|(h)|(i)|(j)|(k)|(l)|(m)|(n)|(o)|(p)|(q)|(r)|(s)",
  textsFrom 0x24af "(t)|(u)|(v)|(w)|(x)|(y)|(z)", textsFrom 0x24ea "0", textsFrom 0x2a0c "∫∫∫∫",
  textsFrom 0x2a74 "::=|==|===", textsFrom 0x2c60 "ⱡ", textsFrom 0x2c62 "ɫ|ᵽ|ɽ",
  textsFrom 0x2c6d "ɑ|ɱ|ɐ|ɒ", textsFrom 0x2c72 "ⱳ", textsFrom 0x2c75 "ⱶ",
  textsFrom 0x2c7c "j|v|ȿ|ɀ", textsFrom 0x2ceb "ⳬ", textsFrom 0x2ced "ⳮ", textsFrom 0x2cf2 "ⳳ",
  textsFrom 0x2d6f "ⵡ", textsFrom 0x2e9f "母", textsFrom 0x2ef3 "龟",
  textsFrom 0x2f00 "一|丨|丶|丿|乙|亅|二|亠|人|儿|入|八|冂|冖|冫|几|凵|刀|力|勹|匕|匚|匸|十|卜|卩|厂|厶|又|口|囗|土|士|夂|夊|夕|大|女|子",
  textsFrom 0x2f27 "宀|寸|小|尢|尸|屮|山|巛|工|己|巾|干|幺|广|廴|廾|弋|弓|彐|彡|彳|心|戈|戶|手|支|攴|文|斗|斤|方|无|日|曰|月|木|欠|止|歹",
  textsFrom 0x2f4e "殳|毋|比|毛|氏|气|水|火|爪|父|爻|爿|片|牙|牛|犬|玄|玉|瓜|瓦|甘|生|用|田|疋|疒|癶|白|皮|皿|目|矛|矢|石|示|禸|禾|穴|立",
  textsFrom 0x2f75 "竹|米|糸|缶|网|羊|羽|老|而|耒|耳|聿|肉|臣|自|至|臼|舌|舛|舟|艮|色|艸|虍|虫|血|行|衣|襾|見|角|言|谷|豆|豕|豸|貝|赤|走",
  textsFrom 0x2f9c "足|身|車|辛|辰|辵|邑|酉|釆|里|金|長|門|阜|隶|隹|雨|靑|非|面|革|韋|韭|音|頁|風|飛|食|首|香|馬|骨|高|髟|鬥|鬯|鬲|鬼|魚",
  textsFrom 0x2fc3 "鳥|鹵|鹿|麥|麻|黃|黍|黑|黹|黽|鼎|鼓|鼠|鼻|齊|齒|龍|龜|龠", textsFrom 0x3000 " ",
  textsFrom 0x3002 ".", textsFrom 0x3036 "〒", textsFrom 0x3038 "十|卄|卅",
  textsFrom 0x309b " \u3099| \u309a", textsFrom 0x309f "より", textsFrom 0x30ff "コト",
  textsFrom 0x3131 "ᄀ|ᄁ|ᆪ|ᄂ|ᆬ|ᆭ", textsFrom 0x3140 "ᄚ", textsFrom 0x3144 "ᄡ",
  textsFrom 0x3165 "ᄔ|ᄕ|ᇇ|ᇈ|ᇌ|ᇎ|ᇓ|ᇗ|ᇙ|ᄜ|ᇝ|ᇟ|ᄝ|ᄞ|ᄠ|ᄢ|ᄣ|ᄧ|ᄩ", textsFrom 0x317d "ᄲ|ᄶ|ᅀ|ᅇ|ᅌ|ᇱ|ᇲ",
  textsFrom 0x3187 "ᆄ|ᆅ|ᆈ|ᆑ|ᆒ|ᆔ|ᆞ|ᆡ", textsFrom 0x3192 "一|二|三|四|上|中|下|甲|乙|丙|丁|天|地|人",
  textsFrom 0x3200 "(ᄀ)|(ᄂ)|(ᄃ)|(ᄅ)|(ᄆ)|(ᄇ)|(ᄉ)|(ᄋ)|(ᄌ)|(ᄎ)|(ᄏ)|(ᄐ)|(ᄑ)|(ᄒ)|(가)|(나)|(다)|(라)|(마)",
  textsFrom 0x3213 "(바)|(사)|(아)|(자)|(차)|(카)|(타)|(파)|(하)|(주)|(오전)|(오후)",
  textsFrom 0x3220 "(一)|(二)|(三)|(四)|(五)|(六)|(七)|(八)|(九)|(十)|(月)|(火)|(水)|(木)|(金)|(土)|(日)|(株)|(有)",
  textsFrom 0x3233 "(社)|(名)|(特)|(財)|(祝)|(労)|(代)|(呼)|(学)|(監)|(企)|(資)|(協)|(祭)|(休)|(自)|(至)|問|幼|文|箏",
  textsFrom 0x3250 "pte|21|22|23|24|25|26|27|28|29|30|31|32|33|34|35|ᄀ|ᄂ|ᄃ",
  textsFrom 0x3266 "ᄉ|ᄋ|ᄌ", textsFrom 0x326e "가|나|다|라|마|바|사|아|자|차|카|타|파|하|참고|주의|우",
  textsFrom 0x3280 "一|二|三|四|五|六|七|八|九|十|月|火|水|木|金|土|日|株|有|社|名|特|財|祝|労|秘|男|女|適|優|印|注|項|休|写|正|上|中|下",
  textsFrom 0x32a7 "左|右|医|宗|学|監|企|資|協|夜|36|37|38|39|40|41|42|43|44|45|46|47|48|49|50|1月|2月|3月|4月",
  textsFrom 0x32c4 "5月|6月|7月|8月|9月|10月|11月|12月|hg|erg|ev|ltd|ア|イ|ウ|エ|オ|カ|キ|ク|ケ|コ|サ|シ|ス|セ|ソ|タ|チ|ツ|テ",
  textsFrom 0x32e3 "ト", textsFrom 0x32ea "ヒ|フ|ヘ|ホ", textsFrom 0x32f3 "ヤ|ユ",
  textsFrom 0x32ff "令和|アパート|アルファ|アンペア|アール|イニング|インチ|ウォン|エスクード|エーカー|オンス|オーム|カイリ|カラット|カロリー|ガロン|ガンマ|ギガ",
  textsFrom 0x3311 "ギニー|キュリー|ギルダー|キロ|キログラム|キロメートル|キロワット|グラム|グラムトン|クルゼイロ|クローネ|ケース|コルナ|コーポ|サイクル",
  textsFrom 0x3320 "サンチーム|シリング|センチ|セント|ダース|デシ|ドル|トン|ナノ|ノット|ハイツ|パーセント|パーツ|バーレル|ピアストル|ピクル|ピコ|ビル",
  textsFrom 0x3332 "ファラッド|フィート|ブッシェル|フラン|ヘクタール|ペソ|ペニヒ|ヘルツ|ペンス|ページ|ベータ|ポイント|ボルト|ホン|ポンド|ホール|ホーン|マイクロ",
  textsFrom 0x3344 "マイル|マッハ|マルク|マンション|ミクロン|ミリ|ミリバール|メガ|メガトン|メートル|ヤード|ヤール|ユアン|リットル|リラ|ルピー|ルーブル|レム",
  textsFrom 0x3356 "レントゲン|ワット|0点|1点|2点|3点|4点|5点|6点|7点|8点|9点|10点|11点|12点|13点|14点|15点|16点|17点|18点",
  textsFrom 0x336b "19点|20点|21点|22点|23点|24点|hpa|da|au|bar|ov|pc|dm|dm2|dm3|iu|平成|昭和|大正|明治|株式会社|pa",
  textsFrom 0x3381 "na|μa|ma|ka|kb|mb|gb|cal|kcal|pf|nf|μf|μg|mg|kg|hz|khz|mhz|ghz|thz|μl|ml|dl|kl",
  textsFrom 0x3399 "fm|nm|μm|mm|cm|km|mm2|cm2|m2|km2|mm3|cm3|m3|km3|m∕s|m∕s2|pa|kpa|mpa|gpa|rad",
  textsFrom 0x33ae "rad∕s|rad∕s2|ps|ns|μs|ms|pv|nv|μv|mv|kv|mv|pw|nw|μw|mw|kw|mw|kω|mω",
  textsFrom 0x33c3 "bq|cc|cd|c∕kg",
  textsFrom 0x33c8 "db|gy|ha|hp|in|kk|km|kt|lm|ln|log|lx|mb|mil|mol|ph",
  textsFrom 0x33d9 "ppm|pr|sr|sv|wb|v∕m|a∕m|1日|2日|3日|4日|5日|6日|7日|8日|9日|10日|11日|12日|13日|14日|15日|16日",
  textsFrom 0x33f0 "17日|18日|19日|20日|21日|22日|23日|24日|25日|26日|27日|28日|29日|30日|31日|gal",
  textsFrom 0xa69c "ъ|ь", textsFrom 0xa770 "ꝯ", textsFrom 0xa779 "ꝺ", textsFrom 0xa77b "ꝼ",
  textsFrom 0xa77d "ᵹ", textsFrom 0xa78b "ꞌ", textsFrom 0xa78d "ɥ", textsFrom 0xa790 "ꞑ",
  textsFrom 0xa792 "ꞓ", textsFrom 0xa7aa "ɦ|ɜ|ɡ|ɬ|ɪ", textsFrom 0xa7b0 "ʞ|ʇ|ʝ|ꭓ",
  textsFrom 0xa7c4 "ꞔ|ʂ|ᶎ|ꟈ", textsFrom 0xa7c9 "ꟊ", textsFrom 0xa7cb "ɤ", textsFrom 0xa7dc "ƛ",
  textsFrom 0xa7f1 "s|c|f|q|ꟶ", textsFrom 0xa7f8 "ħ|œ", textsFrom 0xab5c "ꜧ|ꬷ|ɫ|ꭒ",
  textsFrom 0xab69 "ʍ", textsFrom 0xfb00 "ff|fi|fl|ffi|ffl|st|st",
  textsFrom 0xfb13 "մն|մե|մի|վն|մխ", textsFrom 0xfb20 "\u05e2|\u05d0|\u05d3|\u05d4",
  textsFrom 0xfb27 "\u05e8|\u05ea|+",
  textsFrom 0xfb4f "\u05d0\u05dc|\u0671|\u0671|\u067b|\u067b|\u067b|\u067b|\u067e|\u067e|\u067e",
  textsFrom 0xfb59 "\u067e|\u0680|\u0680|\u0680|\u0680|\u067a|\u067a|\u067a|\u067a|\u067f|\u067f",
  textsFrom 0xfb64 "\u067f|\u067f|\u0679|\u0679|\u0679|\u0679|\u06a4|\u06a4|\u06a4|\u06a4|\u06a6",
  textsFrom 0xfb6f "\u06a6|\u06a6|\u06a6|\u0684|\u0684|\u0684|\u0684|\u0683|\u0683|\u0683|\u0683",
  textsFrom 0xfb7a "\u0686|\u0686|\u0686|\u0686|\u0687|\u0687|\u0687|\u0687|\u068d|\u068d|\u068c",
  textsFrom 0xfb85 "\u068c|\u068e|\u068e|\u0688|\u0688|\u0698|\u0698|\u0691|\u0691|\u06a9|\u06a9",
  textsFrom 0xfb90 "\u06a9|\u06a9|\u06af|\u06af|\u06af|\u06af|\u06b3|\u06b3|\u06b3|\u06b3|\u06b1",
  textsFrom 0xfb9b "\u06b1|\u06b1|\u06b1|\u06ba|\u06ba|\u06bb|\u06bb|\u06bb|\u06bb|\u06c0|\u06c0",
  textsFrom 0xfba6 "\u06c1|\u06c1|\u06c1|\u06c1|\u06be|\u06be|\u06be|\u06be|\u06d2|\u06d2|\u06d3",
  textsFrom 0xfbb1 "\u06d3",
  textsFrom 0xfbd3 "\u06ad|\u06ad|\u06ad|\u06ad|\u06c7|\u06c7|\u06c6|\u06c6|\u06c8|\u06c8",
  textsFrom 0xfbdd "\u06c7\u0674|\u06cb|\u06cb|\u06c5|\u06c5|\u06c9|\u06c9|\u06d0|\u06d0|\u06d0",
  textsFrom 0xfbe7 "\u06d0|\u0649|\u0649|\u0626\u0627|\u0626\u0627|\u0626\u06d5|\u0626\u06d5",
  textsFrom 0xfbee "\u0626\u0648|\u0626\u0648|\u0626\u06c7|\u0626\u06c7|\u0626\u06c6|\u0626\u06c6",
  textsFrom 0xfbf4 "\u0626\u06c8|\u0626\u06c8|\u0626\u06d0|\u0626\u06d0|\u0626\u06d0|\u0626\u0649",
  textsFrom 0xfbfa "\u0626\u0649|\u0626\u0649|\u06cc|\u06cc|\u06cc|\u06cc|\u0626\u062c",
  textsFrom 0xfc01 "\u0626\u062d|\u0626\u0645|\u0626\u0649|\u0626\u064a|\u0628\u062c|\u0628\u062d",
  textsFrom 0xfc07 "\u0628\u062e|\u0628\u0645|\u0628\u0649|\u0628\u064a|\u062a\u062c|\u062a\u062d",
  textsFrom 0xfc0d "\u062a\u062e|\u062a\u0645|\u062a\u0649|\u062a\u064a|\u062b\u062c|\u062b\u0645",
  textsFrom 0xfc13 "\u062b\u0649|\u062b\u064a|\u062c\u062d|\u062c\u0645|\u062d\u062c|\u062d\u0645",
  textsFrom 0xfc19 "\u062e\u062c|\u062e\u062d|\u062e\u0645|\u0633\u062c|\u0633\u062d|\u0633\u062e",
  textsFrom 0xfc1f "\u0633\u0645|\u0635\u062d|\u0635\u0645|\u0636\u062c|\u0636\u062d|\u0636\u062e",
  textsFrom 0xfc25 "\u0636\u0645|\u0637\u062d|\u0637\u0645|\u0638\u0645|\u0639\u062c|\u0639\u0645",
  textsFrom 0xfc2b "\u063a\u062c|\u063a\u0645|\u0641\u062c|\u0641\u062d|\u0641\u062e|\u0641\u0645",
  textsFrom 0xfc31 "\u0641\u0649|\u0641\u064a|\u0642\u062d|\u0642\u0645|\u0642\u0649|\u0642\u064a",
  textsFrom 0xfc37 "\u0643\u0627|\u0643\u062c|\u0643\u062d|\u0643\u062e|\u0643\u0644|\u0643\u0645",
  textsFrom 0xfc3d "\u0643\u0649|\u0643\u064a|\u0644\u062c|\u0644\u062d|\u0644\u062e|\u0644\u0645",
  textsFrom 0xfc43 "\u0644\u0649|\u0644\u064a|\u0645\u062c|\u0645\u062d|\u0645\u062e|\u0645\u0645",
  textsFrom 0xfc49 "\u0645\u0649|\u0645\u064a|\u0646\u062c|\u0646\u062d|\u0646\u062e|\u0646\u0645",
  textsFrom 0xfc4f "\u0646\u0649|\u0646\u064a|\u0647\u062c|\u0647\u0645|\u0647\u0649|\u0647\u064a",
  textsFrom 0xfc55 "\u064a\u062c|\u064a\u062d|\u064a\u062e|\u064a\u0645|\u064a\u0649|\u064a\u064a",
  textsFrom 0xfc5b "\u0630\u0670|\u0631\u0670|\u0649\u0670| \u064c\u0651| \u064d\u0651",
  textsFrom 0xfc60 " \u064e\u0651| \u064f\u0651| \u0650\u0651| \u0651\u0670|\u0626\u0631",
  textsFrom 0xfc65 "\u0626\u0632|\u0626\u0645|\u0626\u0646|\u0626\u0649|\u0626\u064a|\u0628\u0631",
  textsFrom 0xfc6b "\u0628\u0632|\u0628\u0645|\u0628\u0646|\u0628\u0649|\u0628\u064a|\u062a\u0631",
  textsFrom 0xfc71 "\u062a\u0632|\u062a\u0645|\u062a\u0646|\u062a\u0649|\u062a\u064a|\u062b\u0631",
  textsFrom 0xfc77 "\u062b\u0632|\u062b\u0645|\u062b\u0646|\u062b\u0649|\u062b\u064a|\u0641\u0649",
  textsFrom 0xfc7d "\u0641\u064a|\u0642\u0649|\u0642\u064a|\u0643\u0627|\u0643\u0644|\u0643\u0645",
  textsFrom 0xfc83 "\u0643\u0649|\u0643\u064a|\u0644\u0645|\u0644\u0649|\u0644\u064a|\u0645\u0627",
  textsFrom 0xfc89 "\u0645\u0645|\u0646\u0631|\u0646\u0632|\u0646\u0645|\u0646\u0646|\u0646\u0649",
  textsFrom 0xfc8f "\u0646\u064a|\u0649\u0670|\u064a\u0631|\u064a\u0632|\u064a\u0645|\u064a\u0646",
  textsFrom 0xfc95 "\u064a\u0649|\u064a\u064a|\u0626\u062c|\u0626\u062d|\u0626\u062e|\u0626\u0645",
  textsFrom 0xfc9b "\u0626\u0647|\u0628\u062c|\u0628\u062d|\u0628\u062e|\u0628\u0645|\u0628\u0647",
  textsFrom 0xfca1 "\u062a\u062c|\u062a\u062d|\u062a\u062e|\u062a\u0645|\u062a\u0647|\u062b\u0645",
  textsFrom 0xfca7 "\u062c\u062d|\u062c\u0645|\u062d\u062c|\u062d\u0645|\u062e\u062c|\u062e\u0645",
  textsFrom 0xfcad "\u0633\u062c|\u0633\u062d|\u0633\u062e|\u0633\u0645|\u0635\u062d|\u0635\u062e",
  textsFrom 0xfcb3 "\u0635\u0645|\u0636\u062c|\u0636\u062d|\u0636\u062e|\u0636\u0645|\u0637\u062d",
  textsFrom 0xfcb9 "\u0638\u0645|\u0639\u062c|\u0639\u0645|\u063a\u062c|\u063a\u0645|\u0641\u062c",
  textsFrom 0xfcbf "\u0641\u062d|\u0641\u062e|\u0641\u0645|\u0642\u062d|\u0642\u0645|\u0643\u062c",
  textsFrom 0xfcc5 "\u0643\u062d|\u0643\u062e|\u0643\u0644|\u0643\u0645|\u0644\u062c|\u0644\u062d",
  textsFrom 0xfccb "\u0644\u062e|\u0644\u0645|\u0644\u0647|\u0645\u062c|\u0645\u062d|\u0645\u062e",
  textsFrom 0xfcd1 "\u0645\u0645|\u0646\u062c|\u0646\u062d|\u0646\u062e|\u0646\u0645|\u0646\u0647",
  textsFrom 0xfcd7 "\u0647\u062c|\u0647\u0645|\u0647\u0670|\u064a\u062c|\u064a\u062d|\u064a\u062e",
  textsFrom 0xfcdd "\u064a\u0645|\u064a\u0647|\u0626\u0645|\u0626\u0647|\u0628\u0645|\u0628\u0647",
  textsFrom 0xfce3 "\u062a\u0645|\u062a\u0647|\u062b\u0645|\u062b\u0647|\u0633\u0645|\u0633\u0647",
  textsFrom 0xfce9 "\u0634\u0645|\u0634\u0647|\u0643\u0644|\u0643\u0645|\u0644\u0645|\u0646\u0645",
  textsFrom 0xfcef "\u0646\u0647|\u064a\u0645|\u064a\u0647|\u0640\u064e\u0651|\u0640\u064f\u0651",
  textsFrom 0xfcf4 "\u0640\u0650\u0651|\u0637\u0649|\u0637\u064a|\u0639\u0649|\u0639\u064a",
  textsFrom 0xfcf9 "\u063a\u0649|\u063a\u064a|\u0633\u0649|\u0633\u064a|\u0634\u0649|\u0634\u064a",
  textsFrom 0xfcff "\u062d\u0649|\u062d\u064a|\u062c\u0649|\u062c\u064a|\u062e\u0649|\u062e\u064a",
  textsFrom 0xfd05 "\u0635\u0649|\u0635\u064a|\u0636\u0649|\u0636\u064a|\u0634\u062c|\u0634\u062d",
  textsFrom 0xfd0b "\u0634\u062e|\u0634\u0645|\u0634\u0631|\u0633\u0631|\u0635\u0631|\u0636\u0631",
  textsFrom 0xfd11 "\u0637\u0649|\u0637\u064a|\u0639\u0649|\u0639\u064a|\u063a\u0649|\u063a\u064a",
  textsFrom 0xfd17 "\u0633\u0649|\u0633\u064a|\u0634\u0649|\u0634\u064a|\u062d\u0649|\u062d\u064a",
  textsFrom 0xfd1d "\u062c\u0649|\u062c\u064a|\u062e\u0649|\u062e\u064a|\u0635\u0649|\u0635\u064a",
  textsFrom 0xfd23 "\u0636\u0649|\u0636\u064a|\u0634\u062c|\u0634\u062d|\u0634\u062e|\u0634\u0645",
  textsFrom 0xfd29 "\u0634\u0631|\u0633\u0631|\u0635\u0631|\u0636\u0631|\u0634\u062c|\u0634\u062d",
  textsFrom 0xfd2f "\u0634\u062e|\u0634\u0645|\u0633\u0647|\u0634\u0647|\u0637\u0645|\u0633\u062c",
  textsFrom 0xfd35 "\u0633\u062d|\u0633\u062e|\u0634\u062c|\u0634\u062d|\u0634\u062e|\u0637\u0645",
  textsFrom 0xfd3b "\u0638\u0645|\u0627\u064b|\u0627\u064b",
  textsFrom 0xfd50 "\u062a\u062c\u0645|\u062a\u062d\u062c|\u062a\u062d\u062c|\u062a\u062d\u0645",
  textsFrom 0xfd54 "\u062a\u062e\u0645|\u062a\u0645\u062c|\u062a\u0645\u062d|\u062a\u0645\u062e",
  textsFrom 0xfd58 "\u062c\u0645\u062d|\u062c\u0645\u062d|\u062d\u0645\u064a|\u062d\u0645\u0649",
  textsFrom 0xfd5c "\u0633\u062d\u062c|\u0633\u062c\u062d|\u0633\u062c\u0649|\u0633\u0645\u062d",
  textsFrom 0xfd60 "\u0633\u0645\u062d|\u0633\u0645\u062c|\u0633\u0645\u0645|\u0633\u0645\u0645",
  textsFrom 0xfd64 "\u0635\u062d\u062d|\u0635\u062d\u062d|\u0635\u0645\u0645|\u0634\u062d\u0645",
  textsFrom 0xfd68 "\u0634\u062d\u0645|\u0634\u062c\u064a|\u0634\u0645\u062e|\u0634\u0645\u062e",
  textsFrom 0xfd6c "\u0634\u0645\u0645|\u0634\u0645\u0645|\u0636\u062d\u0649|\u0636\u062e\u0645",
  textsFrom 0xfd70 "\u0636\u062e\u0645|\u0637\u0645\u062d|\u0637\u0645\u062d|\u0637\u0645\u0645",
  textsFrom 0xfd74 "\u0637\u0645\u064a|\u0639\u062c\u0645|\u0639\u0645\u0645|\u0639\u0645\u0645",
  textsFrom 0xfd78 "\u0639\u0645\u0649|\u063a\u0645\u0645|\u063a\u0645\u064a|\u063a\u0645\u0649",
  textsFrom 0xfd7c "\u0641\u062e\u0645|\u0641\u062e\u0645|\u0642\u0645\u062d|\u0642\u0645\u0645",
  textsFrom 0xfd80 "\u0644\u062d\u0645|\u0644\u062d\u064a|\u0644\u062d\u0649|\u0644\u062c\u062c",
  textsFrom 0xfd84 "\u0644\u062c\u062c|\u0644\u062e\u0645|\u0644\u062e\u0645|\u0644\u0645\u062d",
  textsFrom 0xfd88 "\u0644\u0645\u062d|\u0645\u062d\u062c|\u0645\u062d\u0645|\u0645\u062d\u064a",
  textsFrom 0xfd8c "\u0645\u062c\u062d|\u0645\u062c\u0645|\u0645\u062e\u062c|\u0645\u062e\u0645",
  textsFrom 0xfd92 "\u0645\u062c\u062e|\u0647\u0645\u062c|\u0647\u0645\u0645|\u0646\u062d\u0645",
  textsFrom 0xfd96 "\u0646\u062d\u0649|\u0646\u062c\u0645|\u0646\u062c\u0645|\u0646\u062c\u0649",
  textsFrom 0xfd9a "\u0646\u0645\u064a|\u0646\u0645\u0649|\u064a\u0645\u0645|\u064a\u0645\u0645",
  textsFrom 0xfd9e "\u0628\u062e\u064a|\u062a\u062c\u064a|\u062a\u062c\u0649|\u062a\u062e\u064a",
  textsFrom 0xfda2 "\u062a\u062e\u0649|\u062a\u0645\u064a|\u062a\u0645\u0649|\u062c\u0645\u064a",
  textsFrom 0xfda6 "\u062c\u062d\u0649|\u062c\u0645\u0649|\u0633\u062e\u0649|\u0635\u062d\u064a",
  textsFrom 0xfdaa "\u0634\u062d\u064a|\u0636\u062d\u064a|\u0644\u062c\u064a|\u0644\u0645\u064a",
  textsFrom 0xfdae "\u064a\u062d\u064a|\u064a\u062c\u064a|\u064a\u0645\u064a|\u0645\u0645\u064a",
  textsFrom 0xfdb2 "\u0642\u0645\u064a|\u0646\u062d\u064a|\u0642\u0645\u062d|\u0644\u062d\u0645",
  textsFrom 0xfdb6 "\u0639\u0645\u064a|\u0643\u0645\u064a|\u0646\u062c\u062d|\u0645\u062e\u064a",
  textsFrom 0xfdba "\u0644\u062c\u0645|\u0643\u0645\u0645|\u0644\u062c\u0645|\u0646\u062c\u062d",
  textsFrom 0xfdbe "\u062c\u062d\u064a|\u062d\u062c\u064a|\u0645\u062c\u064a|\u0641\u0645\u064a",
  textsFrom 0xfdc2 "\u0628\u062d\u064a|\u0643\u0645\u0645|\u0639\u062c\u0645|\u0635\u0645\u0645",
  textsFrom 0xfdc6 "\u0633\u062e\u064a|\u0646\u062c\u064a",
  textsFrom 0xfdf0 "\u0635\u0644\u06d2|\u0642\u0644\u06d2|\u0627\u0644\u0644\u0647",
  textsFrom 0xfdf3 "\u0627\u0643\u0628\u0631|\u0645\u062d\u0645\u062f|\u0635\u0644\u0639\u0645",
  textsFrom 0xfdf6 "\u0631\u0633\u0648\u0644|\u0639\u0644\u064a\u0647|\u0648\u0633\u0644\u0645",
  textsFrom 0xfdf9 "\u0635\u0644\u0649",
  textsFrom 0xfdfa
    "\u0635\u0644\u0649 \u0627\u0644\u0644\u0647 \u0639\u0644\u064a\u0647 \u0648\u0633\u0644\u0645",
  textsFrom 0xfdfb "\u062c\u0644 \u062c\u0644\u0627\u0644\u0647|\u0631\u06cc\u0627\u0644",
  textsFrom 0xfe10 ",|、", textsFrom 0xfe13 ":|;|!|?|〖|〗",
  textsFrom 0xfe31 "\u2014|\u2013|_|_|(|)|\x7b|\x7d|〔|〕|【|】|《|》|〈|〉",
  textsFrom 0xfe47 "[|]| \u0305| \u0305| \u0305| \u0305|_|_|_|,|、",
  textsFrom 0xfe54 ";|:|?|!|\u2014|(|)|\x7b|\x7d|〔|〕|#|&|*|+|-|<|>|=", textsFrom 0xfe68 "\\|$|%|@",
  textsFrom 0xfe70 " \u064b|\u0640\u064b| \u064c", textsFrom 0xfe74 " \u064d",
  textsFrom 0xfe76 " \u064e|\u0640\u064e| \u064f|\u0640\u064f| \u0650|\u0640\u0650| \u0651",
  textsFrom 0xfe7d "\u0640\u0651| \u0652|\u0640\u0652|\u0621|\u0622|\u0622|\u0623|\u0623|\u0624",
  textsFrom 0xfe86 "\u0624|\u0625|\u0625|\u0626|\u0626|\u0626|\u0626|\u0627|\u0627|\u0628|\u0628",
  textsFrom 0xfe91 "\u0628|\u0628|\u0629|\u0629|\u062a|\u062a|\u062a|\u062a|\u062b|\u062b|\u062b",
  textsFrom 0xfe9c "\u062b|\u062c|\u062c|\u062c|\u062c|\u062d|\u062d|\u062d|\u062d|\u062e|\u062e",
  textsFrom 0xfea7 "\u062e|\u062e|\u062f|\u062f|\u0630|\u0630|\u0631|\u0631|\u0632|\u0632|\u0633",
  textsFrom 0xfeb2 "\u0633|\u0633|\u0633|\u0634|\u0634|\u0634|\u0634|\u0635|\u0635|\u0635|\u0635",
  textsFrom 0xfebd "\u0636|\u0636|\u0636|\u0636|\u0637|\u0637|\u0637|\u0637|\u0638|\u0638|\u0638",
  textsFrom 0xfec8 "\u0638|\u0639|\u0639|\u0639|\u0639|\u063a|\u063a|\u063a|\u063a|\u0641|\u0641",
  textsFrom 0xfed3 "\u0641|\u0641|\u0642|\u0642|\u0642|\u0642|\u0643|\u0643|\u0643|\u0643|\u0644",
  textsFrom 0xfede "\u0644|\u0644|\u0644|\u0645|\u0645|\u0645|\u0645|\u0646|\u0646|\u0646|\u0646",
  textsFrom 0xfee9 "\u0647|\u0647|\u0647|\u0647|\u0648|\u0648|\u0649|\u0649|\u064a|\u064a|\u064a",
  textsFrom 0xfef4 "\u064a|\u0644\u0622|\u0644\u0622|\u0644\u0623|\u0644\u0623|\u0644\u0625",
  textsFrom 0xfefa "\u0644\u0625|\u0644\u0627|\u0644\u0627",
  textsFrom 0xff5f "⦅|⦆|.|「|」|、|・|ヲ|ァ|ィ|ゥ|ェ|ォ|ャ|ュ|ョ|ッ|ー|ア|イ|ウ|エ|オ|カ|キ|ク|ケ|コ|サ|シ|ス|セ|ソ|タ|チ|ツ|テ|ト",
  textsFrom 0xff8b "ヒ|フ|ヘ|ホ", textsFrom 0xff94 "ヤ|ユ", textsFrom 0xff9c "ワ|ン|\u3099|\u309a",
  textsFrom 0xffa1 "ᄀ|ᄁ|ᆪ|ᄂ|ᆬ|ᆭ", textsFrom 0xffb0 "ᄚ", textsFrom 0xffb4 "ᄡ",
  textsFrom 0xffe0 "¢|£|¬| \u0304|¦|¥|₩", textsFrom 0xffe8 "│", textsFrom 0xffed "■|○",
  textsFrom 0x10594 "𐖻|𐖼", textsFrom 0x10781 "ː|ˑ|æ|ʙ|ɓ",
  textsFrom 0x10787 "ʣ|ꭦ|ʥ|ʤ|ɖ|ɗ|ᶑ|ɘ|ɞ|ʩ|ɤ|ɢ|ɠ|ʛ|ħ|ʜ|ɧ|ʄ|ʪ|ʫ|ɬ|𝼄|ꞎ|ɮ|𝼅|ʎ|𝼆|ø|ɶ|ɷ|q|ɺ|𝼈|ɽ|ɾ|ʀ|ʨ|ʦ|ꭧ",
  textsFrom 0x107ae "ʧ|ʈ|ⱱ", textsFrom 0x107b2 "ʏ|ʡ|ʢ|ʘ", textsFrom 0x107b9 "𝼊|𝼞",
  textsFrom 0x1d49c "a", textsFrom 0x1d49e "c|d", textsFrom 0x1d4a2 "g", textsFrom 0x1d4a5 "j|k",
  textsFrom 0x1d4bb "f", textsFrom 0x1d504 "a|b", textsFrom 0x1d538 "a|b", textsFrom 0x1d546 "o",
  textsFrom 0x1d6a4 "ı|ȷ", textsFrom 0x1d6b9 "θ", textsFrom 0x1d6c1 "∇", textsFrom 0x1d6d3 "σ",
  textsFrom 0x1d6db "∂|ε|θ|κ|φ|ρ|π", textsFrom 0x1d6f3 "θ", textsFrom 0x1d6fb "∇",
  textsFrom 0x1d70d "σ", textsFrom 0x1d715 "∂|ε|θ|κ|φ|ρ|π", textsFrom 0x1d72d "θ",
  textsFrom 0x1d735 "∇", textsFrom 0x1d747 "σ", textsFrom 0x1d74f "∂|ε|θ|κ|φ|ρ|π",
  textsFrom 0x1d767 "θ", textsFrom 0x1d76f "∇", textsFrom 0x1d781 "σ",
  textsFrom 0x1d789 "∂|ε|θ|κ|φ|ρ|π", textsFrom 0x1d7a1 "θ", textsFrom 0x1d7a9 "∇",
  textsFrom 0x1d7bb "σ", textsFrom 0x1d7c3 "∂|ε|θ|κ|φ|ρ|π|ϝ|ϝ",
  textsFrom 0x1e047 "ы|э|ю|ꚉ|ә|і|ј|ө|ү|ӏ", textsFrom 0x1e05a "к|л|о|п|с",
  textsFrom 0x1e065 "ъ|ы|ґ|і|ѕ|џ|ҫ|ꙑ|ұ", textsFrom 0x1ee00 "\u0627|\u0628|\u062c|\u062f",
  textsFrom 0x1ee05 "\u0648|\u0632|\u062d|\u0637|\u064a",
  textsFrom 0x1ee0e "\u0633|\u0639|\u0641|\u0635|\u0642|\u0631|\u0634|\u062a|\u062b|\u062e|\u0630",
  textsFrom 0x1ee19 "\u0636|\u0638|\u063a|\u066e|\u06ba|\u06a1|\u066f",
  textsFrom 0x1ee21 "\u0628|\u062c", textsFrom 0x1ee24 "\u0647", textsFrom 0x1ee27 "\u062d",
  textsFrom 0x1ee29 "\u064a", textsFrom 0x1ee2e "\u0633|\u0639|\u0641|\u0635|\u0642",
  textsFrom 0x1ee34 "\u0634|\u062a|\u062b|\u062e", textsFrom 0x1ee39 "\u0636",
  textsFrom 0x1ee3b "\u063a", textsFrom 0x1ee42 "\u062c", textsFrom 0x1ee47 "\u062d",
  textsFrom 0x1ee49 "\u064a", textsFrom 0x1ee4b "\u0644", textsFrom 0x1ee4d "\u0646|\u0633|\u0639",
  textsFrom 0x1ee51 "\u0635|\u0642", textsFrom 0x1ee54 "\u0634", textsFrom 0x1ee57 "\u062e",
  textsFrom 0x1ee59 "\u0636", textsFrom 0x1ee5b "\u063a", textsFrom 0x1ee5d "\u06ba",
  textsFrom 0x1ee5f "\u066f", textsFrom 0x1ee61 "\u0628|\u062c", textsFrom 0x1ee64 "\u0647",
  textsFrom 0x1ee67 "\u062d|\u0637|\u064a|\u0643",
  textsFrom 0x1ee6c "\u0645|\u0646|\u0633|\u0639|\u0641|\u0635|\u0642",
  textsFrom 0x1ee74 "\u0634|\u062a|\u062b|\u062e", textsFrom 0x1ee79 "\u0636|\u0638|\u063a|\u066e",
  textsFrom 0x1ee7e "\u06a1",
  textsFrom 0x1ee80 "\u0627|\u0628|\u062c|\u062f|\u0647|\u0648|\u0632|\u062d|\u0637|\u064a",
  textsFrom 0x1ee8e "\u0633|\u0639|\u0641|\u0635|\u0642|\u0631|\u0634|\u062a|\u062b|\u062e|\u0630",
  textsFrom 0x1ee99 "\u0636|\u0638|\u063a", textsFrom 0x1eea1 "\u0628|\u062c|\u062f",
  textsFrom 0x1eea5 "\u0648|\u0632|\u062d|\u0637|\u064a",
  textsFrom 0x1eeae "\u0633|\u0639|\u0641|\u0635|\u0642|\u0631|\u0634|\u062a|\u062b|\u062e|\u0630",
  textsFrom 0x1eeb9 "\u0636|\u0638|\u063a", textsFrom 0x1f101 "0,|1,|2,|3,|4,|5,|6,|7,|8,|9,",
  textsFrom 0x1f110 "(a)|(b)|(c)|(d)|(e)|(f)|(g)|(h)|(i)|(j)|(k)|(l)|(m)|(n)|(o)|(p)|(q)|(r)|(s)",
  textsFrom 0x1f123 "(t)|(u)|(v)|(w)|(x)|(y)|(z)|〔s〕|c|r|cd|wz",
  textsFrom 0x1f14a "hv|mv|sd|ss|ppv|wc", textsFrom 0x1f16a "mc|md|mr", textsFrom 0x1f190 "dj",
  textsFrom 0x1f200 "ほか|ココ|サ",
  textsFrom 0x1f210 "手|字|双|デ|二|多|解|天|交|映|無|料|前|後|再|新|初|終|生|販|声|吹|演|投|捕|一|三|遊|左|中|右|指|走|打|禁|空|合|満|有",
  textsFrom 0x1f237 "月|申|割|営|配", textsFrom 0x1f240 "〔本〕|〔三〕|〔二〕|〔安〕|〔点〕|〔打〕|〔盗〕|〔勝〕|〔敗〕",
  textsFrom 0x1f250 "得|可"]

/-- The code points of characters that are left out. -/
def ignoredRanges : List (Nat × Nat) := [
  (0x00ad, 0x00ad), (0x034f, 0x034f), (0x115f, 0x1160), (0x17b4, 0x17b5), (0x180b, 0x180f),
  (0x200b, 0x200b), (0x2060, 0x2064), (0x206a, 0x206f), (0x3164, 0x3164), (0xfe00, 0xfe0f),
  (0xfeff, 0xfeff), (0xffa0, 0xffa0), (0x1bca0, 0x1bca3), (0x1d173, 0x1d17a), (0xe0100, 0xe01ef)]

/-- The code points of visible characters that no domain holds, such as full stops with digits. -/
def disallowedRanges : List (Nat × Nat) := [
  (0x2024, 0x2026), (0x2488, 0x249b), (0x2ff0, 0x2fff), (0x31ef, 0x31ef), (0x33c2, 0x33c2),
  (0x33c7, 0x33c7), (0x33d8, 0x33d8), (0xfe12, 0xfe12), (0xfe19, 0xfe19), (0xfe30, 0xfe30),
  (0xfe52, 0xfe52), (0xfffc, 0xfffd), (0x1f100, 0x1f100)]

/-- The character that one is mapped to in steps. -/
def shifted? (c : Char) : Option Char := do
  let shift ← shifts.find? fun shift =>
    shift.first ≤ c.toNat && c.toNat ≤ shift.last && (c.toNat - shift.first) % shift.step == 0
  return Char.ofNat ((c.toNat : Int) + shift.distance).toNat

/-- The text that a character stands for, if it is not a text of its own parts. -/
def mapped? (c : Char) : Option (List Char) :=
  match shifted? c with
  | some plain => some [plain]
  | none => lookUp? texts c

def isIgnored (c : Char) : Bool := inRanges ignoredRanges c.toNat

/-- The join controls, which the writing of some words needs. -/
def isJoiner (c : Char) : Bool := c == '\u200c' || c == '\u200d'

/-- Whether no domain holds the character, whatever it may stand for. -/
def isDisallowed (c : Char) : Bool :=
  0x80 ≤ c.toNat &&
    (inRanges disallowedRanges c.toNat ||
      (!isPrintable c && (mapped? c).isNone && !isIgnored c && !isJoiner c))

/-- The plain text that a character stands for. A composed character stands for its parts. -/
def plainText (c : Char) : List Char :=
  match mapped? c with
  | some text => text
  | none =>
    if isIgnored c then []
    else (Canonical.decomposed c).flatMap fun part => (mapped? part).getD [part]

end SearchSql.Http.Domain
