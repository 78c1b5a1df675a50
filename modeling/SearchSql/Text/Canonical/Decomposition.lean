import SearchSql.Text.Run

/-!
# Canonical decomposition

Some characters are only another way to write a character or a sequence of characters. Those that
are composed of two, and are preferred to them, are kept apart from the others, which no preferred
text holds. A syllable of Hangul is composed by its number.
-/

namespace SearchSql.Text.Canonical

open Run

/-- The two characters that a composed character is preferred to. -/
def pairs : List Run := [
  pairsFrom 0x00c0 "A\u0300A\u0301A\u0302A\u0303A\u0308A\u030a",
  pairsFrom 0x00c7 "C\u0327E\u0300E\u0301E\u0302E\u0308I\u0300I\u0301I\u0302I\u0308",
  pairsFrom 0x00d1 "N\u0303O\u0300O\u0301O\u0302O\u0303O\u0308",
  pairsFrom 0x00d9 "U\u0300U\u0301U\u0302U\u0308Y\u0301",
  pairsFrom 0x00e0 "a\u0300a\u0301a\u0302a\u0303a\u0308a\u030a",
  pairsFrom 0x00e7 "c\u0327e\u0300e\u0301e\u0302e\u0308i\u0300i\u0301i\u0302i\u0308",
  pairsFrom 0x00f1 "n\u0303o\u0300o\u0301o\u0302o\u0303o\u0308",
  pairsFrom 0x00f9 "u\u0300u\u0301u\u0302u\u0308y\u0301",
  pairsFrom 0x00ff "y\u0308A\u0304a\u0304A\u0306a\u0306A\u0328a\u0328C\u0301c\u0301C\u0302c\u0302",
  pairsFrom 0x010a "C\u0307c\u0307C\u030cc\u030cD\u030cd\u030c",
  pairsFrom 0x0112 "E\u0304e\u0304E\u0306e\u0306E\u0307e\u0307E\u0328e\u0328E\u030ce\u030cG\u0302",
  pairsFrom 0x011d "g\u0302G\u0306g\u0306G\u0307g\u0307G\u0327g\u0327H\u0302h\u0302",
  pairsFrom 0x0128 "I\u0303i\u0303I\u0304i\u0304I\u0306i\u0306I\u0328i\u0328I\u0307",
  pairsFrom 0x0134 "J\u0302j\u0302K\u0327k\u0327",
  pairsFrom 0x0139 "L\u0301l\u0301L\u0327l\u0327L\u030cl\u030c",
  pairsFrom 0x0143 "N\u0301n\u0301N\u0327n\u0327N\u030cn\u030c",
  pairsFrom 0x014c "O\u0304o\u0304O\u0306o\u0306O\u030bo\u030b",
  pairsFrom 0x0154 "R\u0301r\u0301R\u0327r\u0327R\u030cr\u030cS\u0301s\u0301S\u0302s\u0302S\u0327",
  pairsFrom 0x015f "s\u0327S\u030cs\u030cT\u0327t\u0327T\u030ct\u030c",
  pairsFrom 0x0168 "U\u0303u\u0303U\u0304u\u0304U\u0306u\u0306U\u030au\u030aU\u030bu\u030bU\u0328",
  pairsFrom 0x0173 "u\u0328W\u0302w\u0302Y\u0302y\u0302Y\u0308Z\u0301z\u0301Z\u0307z\u0307Z\u030c",
  pairsFrom 0x017e "z\u030c", pairsFrom 0x01a0 "O\u031bo\u031b", pairsFrom 0x01af "U\u031bu\u031b",
  pairsFrom 0x01cd "A\u030ca\u030cI\u030ci\u030cO\u030co\u030cU\u030cu\u030cÜ\u0304ü\u0304Ü\u0301",
  pairsFrom 0x01d8 "ü\u0301Ü\u030cü\u030cÜ\u0300ü\u0300",
  pairsFrom 0x01de "Ä\u0304ä\u0304Ȧ\u0304ȧ\u0304Æ\u0304æ\u0304",
  pairsFrom 0x01e6 "G\u030cg\u030cK\u030ck\u030cO\u0328o\u0328Ǫ\u0304ǫ\u0304Ʒ\u030cʒ\u030cj\u030c",
  pairsFrom 0x01f4 "G\u0301g\u0301",
  pairsFrom 0x01f8 "N\u0300n\u0300Å\u0301å\u0301Æ\u0301æ\u0301Ø\u0301ø\u0301A\u030fa\u030fA\u0311",
  pairsFrom 0x0203 "a\u0311E\u030fe\u030fE\u0311e\u0311I\u030fi\u030fI\u0311i\u0311O\u030fo\u030f",
  pairsFrom 0x020e "O\u0311o\u0311R\u030fr\u030fR\u0311r\u0311U\u030fu\u030fU\u0311u\u0311S\u0326",
  pairsFrom 0x0219 "s\u0326T\u0326t\u0326", pairsFrom 0x021e "H\u030ch\u030c",
  pairsFrom 0x0226 "A\u0307a\u0307E\u0327e\u0327Ö\u0304ö\u0304Õ\u0304õ\u0304O\u0307o\u0307Ȯ\u0304",
  pairsFrom 0x0231 "ȯ\u0304Y\u0304y\u0304", pairsFrom 0x0385 "¨\u0301Α\u0301",
  pairsFrom 0x0388 "Ε\u0301Η\u0301Ι\u0301", pairsFrom 0x038c "Ο\u0301",
  pairsFrom 0x038e "Υ\u0301Ω\u0301ϊ\u0301",
  pairsFrom 0x03aa "Ι\u0308Υ\u0308α\u0301ε\u0301η\u0301ι\u0301ϋ\u0301",
  pairsFrom 0x03ca "ι\u0308υ\u0308ο\u0301υ\u0301ω\u0301", pairsFrom 0x03d3 "ϒ\u0301ϒ\u0308",
  pairsFrom 0x0400 "Е\u0300Е\u0308", pairsFrom 0x0403 "Г\u0301", pairsFrom 0x0407 "І\u0308",
  pairsFrom 0x040c "К\u0301И\u0300У\u0306", pairsFrom 0x0419 "И\u0306", pairsFrom 0x0439 "и\u0306",
  pairsFrom 0x0450 "е\u0300е\u0308", pairsFrom 0x0453 "г\u0301", pairsFrom 0x0457 "і\u0308",
  pairsFrom 0x045c "к\u0301и\u0300у\u0306", pairsFrom 0x0476 "Ѵ\u030fѵ\u030f",
  pairsFrom 0x04c1 "Ж\u0306ж\u0306", pairsFrom 0x04d0 "А\u0306а\u0306А\u0308а\u0308",
  pairsFrom 0x04d6 "Е\u0306е\u0306", pairsFrom 0x04da "Ә\u0308ә\u0308Ж\u0308ж\u0308З\u0308з\u0308",
  pairsFrom 0x04e2 "И\u0304и\u0304И\u0308и\u0308О\u0308о\u0308",
  pairsFrom 0x04ea "Ө\u0308ө\u0308Э\u0308э\u0308У\u0304у\u0304У\u0308у\u0308У\u030bу\u030bЧ\u0308",
  pairsFrom 0x04f5 "ч\u0308", pairsFrom 0x04f8 "Ы\u0308ы\u0308",
  pairsFrom 0x0622 "\u0627\u0653\u0627\u0654\u0648\u0654\u0627\u0655\u064a\u0654",
  pairsFrom 0x06c0 "\u06d5\u0654", pairsFrom 0x06c2 "\u06c1\u0654", pairsFrom 0x06d3 "\u06d2\u0654",
  pairsFrom 0x0929 "न\u093c", pairsFrom 0x0931 "र\u093c", pairsFrom 0x0934 "ळ\u093c",
  pairsFrom 0x09cb "\u09c7\u09be\u09c7\u09d7", pairsFrom 0x0b48 "\u0b47\u0b56",
  pairsFrom 0x0b4b "\u0b47\u0b3e\u0b47\u0b57", pairsFrom 0x0b94 "ஒ\u0bd7",
  pairsFrom 0x0bca "\u0bc6\u0bbe\u0bc7\u0bbe\u0bc6\u0bd7", pairsFrom 0x0c48 "\u0c46\u0c56",
  pairsFrom 0x0cc0 "\u0cbf\u0cd5", pairsFrom 0x0cc7 "\u0cc6\u0cd5\u0cc6\u0cd6",
  pairsFrom 0x0cca "\u0cc6\u0cc2\u0cca\u0cd5",
  pairsFrom 0x0d4a "\u0d46\u0d3e\u0d47\u0d3e\u0d46\u0d57", pairsFrom 0x0dda "\u0dd9\u0dca",
  pairsFrom 0x0ddc "\u0dd9\u0dcf\u0ddc\u0dca\u0dd9\u0ddf", pairsFrom 0x1026 "ဥ\u102e",
  pairsFrom 0x1b06 "ᬅ\u1b35", pairsFrom 0x1b08 "ᬇ\u1b35", pairsFrom 0x1b0a "ᬉ\u1b35",
  pairsFrom 0x1b0c "ᬋ\u1b35", pairsFrom 0x1b0e "ᬍ\u1b35", pairsFrom 0x1b12 "ᬑ\u1b35",
  pairsFrom 0x1b3b "\u1b3a\u1b35", pairsFrom 0x1b3d "\u1b3c\u1b35",
  pairsFrom 0x1b40 "\u1b3e\u1b35\u1b3f\u1b35", pairsFrom 0x1b43 "\u1b42\u1b35",
  pairsFrom 0x1e00 "A\u0325a\u0325B\u0307b\u0307B\u0323b\u0323B\u0331b\u0331Ç\u0301ç\u0301D\u0307",
  pairsFrom 0x1e0b "d\u0307D\u0323d\u0323D\u0331d\u0331D\u0327d\u0327D\u032dd\u032dĒ\u0300ē\u0300",
  pairsFrom 0x1e16 "Ē\u0301ē\u0301E\u032de\u032dE\u0330e\u0330Ȩ\u0306ȩ\u0306F\u0307f\u0307G\u0304",
  pairsFrom 0x1e21 "g\u0304H\u0307h\u0307H\u0323h\u0323H\u0308h\u0308H\u0327h\u0327H\u032eh\u032e",
  pairsFrom 0x1e2c "I\u0330i\u0330Ï\u0301ï\u0301K\u0301k\u0301K\u0323k\u0323K\u0331k\u0331L\u0323",
  pairsFrom 0x1e37 "l\u0323Ḷ\u0304ḷ\u0304L\u0331l\u0331L\u032dl\u032dM\u0301m\u0301M\u0307m\u0307",
  pairsFrom 0x1e42 "M\u0323m\u0323N\u0307n\u0307N\u0323n\u0323N\u0331n\u0331N\u032dn\u032dÕ\u0301",
  pairsFrom 0x1e4d "õ\u0301Õ\u0308õ\u0308Ō\u0300ō\u0300Ō\u0301ō\u0301P\u0301p\u0301P\u0307p\u0307",
  pairsFrom 0x1e58 "R\u0307r\u0307R\u0323r\u0323Ṛ\u0304ṛ\u0304R\u0331r\u0331S\u0307s\u0307S\u0323",
  pairsFrom 0x1e63 "s\u0323Ś\u0307ś\u0307Š\u0307š\u0307Ṣ\u0307ṣ\u0307T\u0307t\u0307T\u0323t\u0323",
  pairsFrom 0x1e6e "T\u0331t\u0331T\u032dt\u032dU\u0324u\u0324U\u0330u\u0330U\u032du\u032dŨ\u0301",
  pairsFrom 0x1e79 "ũ\u0301Ū\u0308ū\u0308V\u0303v\u0303V\u0323v\u0323W\u0300w\u0300W\u0301w\u0301",
  pairsFrom 0x1e84 "W\u0308w\u0308W\u0307w\u0307W\u0323w\u0323X\u0307x\u0307X\u0308x\u0308Y\u0307",
  pairsFrom 0x1e8f "y\u0307Z\u0302z\u0302Z\u0323z\u0323Z\u0331z\u0331h\u0331t\u0308w\u030ay\u030a",
  pairsFrom 0x1e9b "ſ\u0307",
  pairsFrom 0x1ea0 "A\u0323a\u0323A\u0309a\u0309Â\u0301â\u0301Â\u0300â\u0300Â\u0309â\u0309Â\u0303",
  pairsFrom 0x1eab "â\u0303Ạ\u0302ạ\u0302Ă\u0301ă\u0301Ă\u0300ă\u0300Ă\u0309ă\u0309Ă\u0303ă\u0303",
  pairsFrom 0x1eb6 "Ạ\u0306ạ\u0306E\u0323e\u0323E\u0309e\u0309E\u0303e\u0303Ê\u0301ê\u0301Ê\u0300",
  pairsFrom 0x1ec1 "ê\u0300Ê\u0309ê\u0309Ê\u0303ê\u0303Ẹ\u0302ẹ\u0302I\u0309i\u0309I\u0323i\u0323",
  pairsFrom 0x1ecc "O\u0323o\u0323O\u0309o\u0309Ô\u0301ô\u0301Ô\u0300ô\u0300Ô\u0309ô\u0309Ô\u0303",
  pairsFrom 0x1ed7 "ô\u0303Ọ\u0302ọ\u0302Ơ\u0301ơ\u0301Ơ\u0300ơ\u0300Ơ\u0309ơ\u0309Ơ\u0303ơ\u0303",
  pairsFrom 0x1ee2 "Ơ\u0323ơ\u0323U\u0323u\u0323U\u0309u\u0309Ư\u0301ư\u0301Ư\u0300ư\u0300Ư\u0309",
  pairsFrom 0x1eed "ư\u0309Ư\u0303ư\u0303Ư\u0323ư\u0323Y\u0300y\u0300Y\u0323y\u0323Y\u0309y\u0309",
  pairsFrom 0x1ef8 "Y\u0303y\u0303",
  pairsFrom 0x1f00 "α\u0313α\u0314ἀ\u0300ἁ\u0300ἀ\u0301ἁ\u0301ἀ\u0342ἁ\u0342Α\u0313Α\u0314Ἀ\u0300",
  pairsFrom 0x1f0b "Ἁ\u0300Ἀ\u0301Ἁ\u0301Ἀ\u0342Ἁ\u0342ε\u0313ε\u0314ἐ\u0300ἑ\u0300ἐ\u0301ἑ\u0301",
  pairsFrom 0x1f18 "Ε\u0313Ε\u0314Ἐ\u0300Ἑ\u0300Ἐ\u0301Ἑ\u0301",
  pairsFrom 0x1f20 "η\u0313η\u0314ἠ\u0300ἡ\u0300ἠ\u0301ἡ\u0301ἠ\u0342ἡ\u0342Η\u0313Η\u0314Ἠ\u0300",
  pairsFrom 0x1f2b "Ἡ\u0300Ἠ\u0301Ἡ\u0301Ἠ\u0342Ἡ\u0342ι\u0313ι\u0314ἰ\u0300ἱ\u0300ἰ\u0301ἱ\u0301",
  pairsFrom 0x1f36 "ἰ\u0342ἱ\u0342Ι\u0313Ι\u0314Ἰ\u0300Ἱ\u0300Ἰ\u0301Ἱ\u0301Ἰ\u0342Ἱ\u0342ο\u0313",
  pairsFrom 0x1f41 "ο\u0314ὀ\u0300ὁ\u0300ὀ\u0301ὁ\u0301",
  pairsFrom 0x1f48 "Ο\u0313Ο\u0314Ὀ\u0300Ὁ\u0300Ὀ\u0301Ὁ\u0301",
  pairsFrom 0x1f50 "υ\u0313υ\u0314ὐ\u0300ὑ\u0300ὐ\u0301ὑ\u0301ὐ\u0342ὑ\u0342",
  pairsFrom 0x1f59 "Υ\u0314", pairsFrom 0x1f5b "Ὑ\u0300", pairsFrom 0x1f5d "Ὑ\u0301",
  pairsFrom 0x1f5f "Ὑ\u0342ω\u0313ω\u0314ὠ\u0300ὡ\u0300ὠ\u0301ὡ\u0301ὠ\u0342ὡ\u0342Ω\u0313Ω\u0314",
  pairsFrom 0x1f6a "Ὠ\u0300Ὡ\u0300Ὠ\u0301Ὡ\u0301Ὠ\u0342Ὡ\u0342α\u0300", pairsFrom 0x1f72 "ε\u0300",
  pairsFrom 0x1f74 "η\u0300", pairsFrom 0x1f76 "ι\u0300", pairsFrom 0x1f78 "ο\u0300",
  pairsFrom 0x1f7a "υ\u0300", pairsFrom 0x1f7c "ω\u0300",
  pairsFrom 0x1f80 "ἀ\u0345ἁ\u0345ἂ\u0345ἃ\u0345ἄ\u0345ἅ\u0345ἆ\u0345ἇ\u0345Ἀ\u0345Ἁ\u0345Ἂ\u0345",
  pairsFrom 0x1f8b "Ἃ\u0345Ἄ\u0345Ἅ\u0345Ἆ\u0345Ἇ\u0345ἠ\u0345ἡ\u0345ἢ\u0345ἣ\u0345ἤ\u0345ἥ\u0345",
  pairsFrom 0x1f96 "ἦ\u0345ἧ\u0345Ἠ\u0345Ἡ\u0345Ἢ\u0345Ἣ\u0345Ἤ\u0345Ἥ\u0345Ἦ\u0345Ἧ\u0345ὠ\u0345",
  pairsFrom 0x1fa1 "ὡ\u0345ὢ\u0345ὣ\u0345ὤ\u0345ὥ\u0345ὦ\u0345ὧ\u0345Ὠ\u0345Ὡ\u0345Ὢ\u0345Ὣ\u0345",
  pairsFrom 0x1fac "Ὤ\u0345Ὥ\u0345Ὦ\u0345Ὧ\u0345α\u0306α\u0304ὰ\u0345α\u0345ά\u0345",
  pairsFrom 0x1fb6 "α\u0342ᾶ\u0345Α\u0306Α\u0304Α\u0300", pairsFrom 0x1fbc "Α\u0345",
  pairsFrom 0x1fc1 "¨\u0342ὴ\u0345η\u0345ή\u0345", pairsFrom 0x1fc6 "η\u0342ῆ\u0345Ε\u0300",
  pairsFrom 0x1fca "Η\u0300", pairsFrom 0x1fcc "Η\u0345᾿\u0300᾿\u0301᾿\u0342ι\u0306ι\u0304ϊ\u0300",
  pairsFrom 0x1fd6 "ι\u0342ϊ\u0342Ι\u0306Ι\u0304Ι\u0300",
  pairsFrom 0x1fdd "῾\u0300῾\u0301῾\u0342υ\u0306υ\u0304ϋ\u0300",
  pairsFrom 0x1fe4 "ρ\u0313ρ\u0314υ\u0342ϋ\u0342Υ\u0306Υ\u0304Υ\u0300",
  pairsFrom 0x1fec "Ρ\u0314¨\u0300", pairsFrom 0x1ff2 "ὼ\u0345ω\u0345ώ\u0345",
  pairsFrom 0x1ff6 "ω\u0342ῶ\u0345Ο\u0300", pairsFrom 0x1ffa "Ω\u0300", pairsFrom 0x1ffc "Ω\u0345",
  pairsFrom 0x219a "←\u0338→\u0338", pairsFrom 0x21ae "↔\u0338",
  pairsFrom 0x21cd "⇐\u0338⇔\u0338⇒\u0338", pairsFrom 0x2204 "∃\u0338", pairsFrom 0x2209 "∈\u0338",
  pairsFrom 0x220c "∋\u0338", pairsFrom 0x2224 "∣\u0338", pairsFrom 0x2226 "∥\u0338",
  pairsFrom 0x2241 "∼\u0338", pairsFrom 0x2244 "≃\u0338", pairsFrom 0x2247 "≅\u0338",
  pairsFrom 0x2249 "≈\u0338", pairsFrom 0x2260 "=\u0338", pairsFrom 0x2262 "≡\u0338",
  pairsFrom 0x226d "≍\u0338<\u0338>\u0338≤\u0338≥\u0338", pairsFrom 0x2274 "≲\u0338≳\u0338",
  pairsFrom 0x2278 "≶\u0338≷\u0338", pairsFrom 0x2280 "≺\u0338≻\u0338",
  pairsFrom 0x2284 "⊂\u0338⊃\u0338", pairsFrom 0x2288 "⊆\u0338⊇\u0338",
  pairsFrom 0x22ac "⊢\u0338⊨\u0338⊩\u0338⊫\u0338", pairsFrom 0x22e0 "≼\u0338≽\u0338⊑\u0338⊒\u0338",
  pairsFrom 0x22ea "⊲\u0338⊳\u0338⊴\u0338⊵\u0338", pairsFrom 0x304c "か\u3099",
  pairsFrom 0x304e "き\u3099", pairsFrom 0x3050 "く\u3099", pairsFrom 0x3052 "け\u3099",
  pairsFrom 0x3054 "こ\u3099", pairsFrom 0x3056 "さ\u3099", pairsFrom 0x3058 "し\u3099",
  pairsFrom 0x305a "す\u3099", pairsFrom 0x305c "せ\u3099", pairsFrom 0x305e "そ\u3099",
  pairsFrom 0x3060 "た\u3099", pairsFrom 0x3062 "ち\u3099", pairsFrom 0x3065 "つ\u3099",
  pairsFrom 0x3067 "て\u3099", pairsFrom 0x3069 "と\u3099", pairsFrom 0x3070 "は\u3099は\u309a",
  pairsFrom 0x3073 "ひ\u3099ひ\u309a", pairsFrom 0x3076 "ふ\u3099ふ\u309a",
  pairsFrom 0x3079 "へ\u3099へ\u309a", pairsFrom 0x307c "ほ\u3099ほ\u309a", pairsFrom 0x3094 "う\u3099",
  pairsFrom 0x309e "ゝ\u3099", pairsFrom 0x30ac "カ\u3099", pairsFrom 0x30ae "キ\u3099",
  pairsFrom 0x30b0 "ク\u3099", pairsFrom 0x30b2 "ケ\u3099", pairsFrom 0x30b4 "コ\u3099",
  pairsFrom 0x30b6 "サ\u3099", pairsFrom 0x30b8 "シ\u3099", pairsFrom 0x30ba "ス\u3099",
  pairsFrom 0x30bc "セ\u3099", pairsFrom 0x30be "ソ\u3099", pairsFrom 0x30c0 "タ\u3099",
  pairsFrom 0x30c2 "チ\u3099", pairsFrom 0x30c5 "ツ\u3099", pairsFrom 0x30c7 "テ\u3099",
  pairsFrom 0x30c9 "ト\u3099", pairsFrom 0x30d0 "ハ\u3099ハ\u309a", pairsFrom 0x30d3 "ヒ\u3099ヒ\u309a",
  pairsFrom 0x30d6 "フ\u3099フ\u309a", pairsFrom 0x30d9 "ヘ\u3099ヘ\u309a",
  pairsFrom 0x30dc "ホ\u3099ホ\u309a", pairsFrom 0x30f4 "ウ\u3099",
  pairsFrom 0x30f7 "ワ\u3099ヰ\u3099ヱ\u3099ヲ\u3099", pairsFrom 0x30fe "ヽ\u3099",
  pairsFrom 0x105c9 "𐗒\u0307", pairsFrom 0x105e4 "𐗚\u0307", pairsFrom 0x1109a "𑂚",
  pairsFrom 0x1109c "𑂜", pairsFrom 0x110ab "𑂫", pairsFrom 0x1112e "𑄮𑄯",
  pairsFrom 0x1134b "𑍋𑍌", pairsFrom 0x11383 "𑎃", pairsFrom 0x11385 "𑎅", pairsFrom 0x1138e "𑎎",
  pairsFrom 0x11391 "𑎑", pairsFrom 0x113c5 "𑏅", pairsFrom 0x113c7 "𑏇𑏈",
  pairsFrom 0x114bb "𑒻𑒼", pairsFrom 0x114be "𑒾", pairsFrom 0x115ba "𑖺𑖻",
  pairsFrom 0x11938 "𑤸", pairsFrom 0x16121 "𖄡𖄢𖄣𖄤𖄥𖄦𖄧𖄨", pairsFrom 0x16d68 "𖵨𖵩𖵪"]

/-- The characters that stand for one other character. -/
def singles : List Run := [
  singlesFrom 0x0340 "\u0300\u0301", singlesFrom 0x0343 "\u0313", singlesFrom 0x0374 "ʹ",
  singlesFrom 0x037e ";", singlesFrom 0x0387 "·", singlesFrom 0x1fbe "ι", singlesFrom 0x1fef "\x60",
  singlesFrom 0x1ffd "´", singlesFrom 0x2000 "\u2002\u2003", singlesFrom 0x2126 "Ω",
  singlesFrom 0x212a "K", singlesFrom 0x2329 "〈〉",
  singlesFrom 0xf900 "豈更車賈滑串句龜龜契金喇奈懶癩羅蘿螺裸邏樂洛烙珞落酪駱亂卵欄爛蘭鸞嵐濫藍襤拉臘蠟廊朗浪狼郎來冷勞擄櫓爐盧老蘆虜路露魯鷺碌祿綠菉錄鹿論壟弄籠聾牢磊賂雷壘屢",
  singlesFrom 0xf94c "樓淚漏累縷陋勒肋凜凌稜綾菱陵讀拏樂諾丹寧怒率異北磻便復不泌數索參塞省葉說殺辰沈拾若掠略亮兩凉梁糧良諒量勵呂女廬旅濾礪閭驪麗黎力曆歷轢年憐戀撚漣煉璉秊練聯",
  singlesFrom 0xf998 "輦蓮連鍊列劣咽烈裂說廉念捻殮簾獵令囹寧嶺怜玲瑩羚聆鈴零靈領例禮醴隸惡了僚寮尿料樂燎療蓼遼龍暈阮劉杻柳流溜琉留硫紐類六戮陸倫崙淪輪律慄栗率隆利吏履易李梨泥",
  singlesFrom 0xf9e4 "理痢罹裏裡里離匿溺吝燐璘藺隣鱗麟林淋臨立笠粒狀炙識什茶刺切度拓糖宅洞暴輻行降見廓兀嗀", singlesFrom 0xfa10 "塚",
  singlesFrom 0xfa12 "晴", singlesFrom 0xfa15 "凞猪益礼神祥福靖精羽", singlesFrom 0xfa20 "蘒",
  singlesFrom 0xfa22 "諸", singlesFrom 0xfa25 "逸都",
  singlesFrom 0xfa2a "飯飼館鶴郞隷侮僧免勉勤卑喝嘆器塀墨層屮悔慨憎懲敏既暑梅海渚漢煮爫琢碑社祉祈祐祖祝禍禎穀突節練縉繁署者臭艹艹著褐視謁謹賓贈辶逸難響頻恵𤋮舘",
  singlesFrom 0xfa70 "並况全侀充冀勇勺喝啕喙嗢塚墳奄奔婢嬨廒廙彩徭惘慎愈憎慠懲戴揄搜摒敖晴朗望杖歹殺流滛滋漢瀞煮瞧爵犯猪瑱甆画瘝瘟益盛直睊着磌窱節类絛練缾者荒華蝹襁覆視調諸請",
  singlesFrom 0xfabc "謁諾諭謹變贈輸遲醙鉶陼難靖韛響頋頻鬒龜𢡊𢡄𣏕㮝䀘䀹𥉉𥳐𧻓齃龎",
  singlesFrom 0x2f800 "丽丸乁𠄢你侮侻倂偺備僧像㒞𠘺免兔兤具𠔜㒹內再𠕋冗冤仌冬况𩇟凵刃㓟刻剆割剷㔕勇勉勤勺包匆北卉卑博即卽卿卿卿𠨬灰及叟𠭣叫叱吆咞吸呈周咢哶唐啓啣善善喙喫喳嗂",
  singlesFrom 0x2f84b "圖嘆圗噑噴切壮城埴堍型堲報墬𡓤売壷夆多夢奢𡚨𡛪姬娛娧姘婦㛮㛼嬈嬾嬾𡧈寃寘寧寳𡬘寿将当尢㞁屠屮峀岍𡷤嵃𡷦嵮嵫嵼巡巢㠯巽帨帽幩㡢𢆃㡼庰庳庶廊𪎒廾𢌱𢌱舁弢弢",
  singlesFrom 0x2f896 "㣇𣊸𦇚形彫㣣徚忍志忹悁㤺㤜悔𢛔惇慈慌慎慌慺憎憲憤憯懞懲懶成戛扝抱拔捐𢬌挽拼捨掃揤𢯱搢揅掩㨮摩摾撝摷㩬敏敬𣀊旣書晉㬙暑㬈㫤冒冕最暜肭䏙朗望朡杞杓𣏃㭉柺枅",
  singlesFrom 0x2f8e1 "桒梅𣑭梎栟椔㮝楂榣槪檨𣚣櫛㰘次𣢧歔㱎歲殟殺殻𣪍𡴋𣫺汎𣲼沿泍汧洖派海流浩浸涅𣴞洴港湮㴳滋滇𣻑淹潮𣽞𣾎濆瀹瀞瀛㶖灊災灷炭𠔥煅𤉣熜𤎫爨爵牐𤘈犀犕𤜵𤠔獺王㺬玥",
  singlesFrom 0x2f92c "㺸㺸瑇瑜瑱璅瓊㼛甤𤰶甾𤲒異𢆟瘐𤾡𤾸𥁄㿼䀈直𥃳𥃲𥄙𥄳眞真真睊䀹瞋䁆䂖𥐝硎碌磌䃣𥘦祖𥚚𥛅福秫䄯穀穊穏𥥼𥪧𥪧竮䈂𥮫篆築䈧𥲀糒䊠糨糣紀𥾆絣䌁緇縂繅䌴𦈨𦉇䍙𦋙罺",
  singlesFrom 0x2f977 "𦌾羕翺者𦓚𦔣聠𦖨聰𣍟䏕育脃䐋脾媵𦞧𦞵𣎓𣎜舁舄辞䑫芑芋芝劳花芳芽苦𦬼若茝荣莭茣莽菧著荓菊菌菜𦰶𦵫𦳕䔫蓱蓳蔖𧏊蕤𦼬䕝䕡𦾱𧃒䕫虐虜虧虩蚩蚈蜎蛢蝹蜨蝫螆䗗蟡蠁",
  singlesFrom 0x2f9c2 "䗹衠衣𧙧裗裞䘵裺㒻𧢮𧥦䚾䛇誠諭變豕𧲨貫賁贛起𧼯𠠄跋趼跰𠣞軔輸𨗒𨗭邔郱鄑𨜮鄛鈸鋗鋘鉼鏹鐕𨯺開䦕閷𨵷䧦雃嶲霣𩅅𩈚䩮䩶韠𩐊䪲𩒖頋頋頩𩖶飢䬳餩馧駂駾䯎𩬰鬒鱀鳽",
  singlesFrom 0x2fa0d "䳎䳭鵧𪃎䳸𪄅𪈎𪊑麻䵖黹黾鼅鼏鼖鼻𪘀"]

/-- The characters that stand for several others, which are preferred to them. -/
def sequences : List Run := [
  textsFrom 0x0344 "\u0308\u0301",
  textsFrom 0x0958 "क\u093c|ख\u093c|ग\u093c|ज\u093c|ड\u093c|ढ\u093c|फ\u093c|य\u093c",
  textsFrom 0x09dc "ড\u09bc|ঢ\u09bc", textsFrom 0x09df "য\u09bc", textsFrom 0x0a33 "ਲ\u0a3c",
  textsFrom 0x0a36 "ਸ\u0a3c", textsFrom 0x0a59 "ਖ\u0a3c|ਗ\u0a3c|ਜ\u0a3c",
  textsFrom 0x0a5e "ਫ\u0a3c", textsFrom 0x0b5c "ଡ\u0b3c|ଢ\u0b3c", textsFrom 0x0f43 "ག\u0fb7",
  textsFrom 0x0f4d "ཌ\u0fb7", textsFrom 0x0f52 "ད\u0fb7", textsFrom 0x0f57 "བ\u0fb7",
  textsFrom 0x0f5c "ཛ\u0fb7", textsFrom 0x0f69 "ཀ\u0fb5", textsFrom 0x0f73 "\u0f71\u0f72",
  textsFrom 0x0f75 "\u0f71\u0f74|\u0fb2\u0f80", textsFrom 0x0f78 "\u0fb3\u0f80",
  textsFrom 0x0f81 "\u0f71\u0f80", textsFrom 0x0f93 "\u0f92\u0fb7", textsFrom 0x0f9d "\u0f9c\u0fb7",
  textsFrom 0x0fa2 "\u0fa1\u0fb7", textsFrom 0x0fa7 "\u0fa6\u0fb7", textsFrom 0x0fac "\u0fab\u0fb7",
  textsFrom 0x0fb9 "\u0f90\u0fb5", textsFrom 0x1f71 "α\u0301", textsFrom 0x1f73 "ε\u0301",
  textsFrom 0x1f75 "η\u0301", textsFrom 0x1f77 "ι\u0301", textsFrom 0x1f79 "ο\u0301",
  textsFrom 0x1f7b "υ\u0301", textsFrom 0x1f7d "ω\u0301", textsFrom 0x1fbb "Α\u0301",
  textsFrom 0x1fc9 "Ε\u0301", textsFrom 0x1fcb "Η\u0301", textsFrom 0x1fd3 "ι\u0308\u0301",
  textsFrom 0x1fdb "Ι\u0301", textsFrom 0x1fe3 "υ\u0308\u0301", textsFrom 0x1feb "Υ\u0301",
  textsFrom 0x1fee "¨\u0301", textsFrom 0x1ff9 "Ο\u0301", textsFrom 0x1ffb "Ω\u0301",
  textsFrom 0x212b "A\u030a", textsFrom 0x2adc "⫝\u0338", textsFrom 0xfb1d "\u05d9\u05b4",
  textsFrom 0xfb1f "\u05f2\u05b7",
  textsFrom 0xfb2a "\u05e9\u05c1|\u05e9\u05c2|\u05e9\u05bc\u05c1|\u05e9\u05bc\u05c2|\u05d0\u05b7",
  textsFrom 0xfb2f "\u05d0\u05b8|\u05d0\u05bc|\u05d1\u05bc|\u05d2\u05bc|\u05d3\u05bc|\u05d4\u05bc",
  textsFrom 0xfb35 "\u05d5\u05bc|\u05d6\u05bc",
  textsFrom 0xfb38 "\u05d8\u05bc|\u05d9\u05bc|\u05da\u05bc|\u05db\u05bc|\u05dc\u05bc",
  textsFrom 0xfb3e "\u05de\u05bc", textsFrom 0xfb40 "\u05e0\u05bc|\u05e1\u05bc",
  textsFrom 0xfb43 "\u05e3\u05bc|\u05e4\u05bc",
  textsFrom 0xfb46 "\u05e6\u05bc|\u05e7\u05bc|\u05e8\u05bc|\u05e9\u05bc|\u05ea\u05bc|\u05d5\u05b9",
  textsFrom 0xfb4c "\u05d1\u05bf|\u05db\u05bf|\u05e4\u05bf",
  textsFrom 0x1d15e "𝅗𝅥|𝅘𝅥|𝅘𝅥𝅮|𝅘𝅥𝅯|𝅘𝅥𝅰|𝅘𝅥𝅱|𝅘𝅥𝅲", textsFrom 0x1d1bb "𝆹𝅥|𝆺𝅥|𝆹𝅥𝅮|𝆺𝅥𝅮|𝆹𝅥𝅯|𝆺𝅥𝅯"]

/-! The numbers of the syllables of Hangul, which count their leads, vowels and tails. -/

namespace Hangul

def firstSyllable : Nat := 0xac00
def firstLead : Nat := 0x1100
def firstVowel : Nat := 0x1161
/-- The character before the first tail; its number says that there is none. -/
def beforeTails : Nat := 0x11a7
def leads : Nat := 19
def vowels : Nat := 21
def tails : Nat := 28

/-- The number of a syllable among the syllables. -/
def index? (c : Char) : Option Nat :=
  if firstSyllable ≤ c.toNat ∧ c.toNat < firstSyllable + leads * vowels * tails then
    some (c.toNat - firstSyllable)
  else none

/-- The letters of a syllable. -/
def letters (index : Nat) : List Char :=
  let lead := Char.ofNat (firstLead + index / (vowels * tails))
  let vowel := Char.ofNat (firstVowel + index % (vowels * tails) / tails)
  if index % tails = 0 then [lead, vowel]
  else [lead, vowel, Char.ofNat (beforeTails + index % tails)]

/-- The syllable that a lead and a vowel, or a syllable without a tail and a tail, compose. -/
def composed? (first second : Char) : Option Char :=
  if firstLead ≤ first.toNat ∧ first.toNat < firstLead + leads ∧
      firstVowel ≤ second.toNat ∧ second.toNat < firstVowel + vowels then
    some <| Char.ofNat <|
      firstSyllable +
        ((first.toNat - firstLead) * vowels + (second.toNat - firstVowel)) * tails
  else
    match index? first with
    | some index =>
      if index % tails = 0 ∧ beforeTails < second.toNat ∧ second.toNat < beforeTails + tails then
        some (Char.ofNat (first.toNat + (second.toNat - beforeTails)))
      else none
    | none => none

end Hangul

/-- The characters that a character stands for. No pair is composed more than three deep. -/
def decomposed (c : Char) : List Char :=
  within 3 c
where
  within : Nat → Char → List Char
    | 0, c => [c]
    | depth + 1, c =>
      match Hangul.index? c with
      | some index => Hangul.letters index
      | none =>
        match (Run.lookUp? singles c).or (Run.lookUp? sequences c) with
        | some text => text
        | none =>
          match Run.lookUp? pairs c with
          | some [first, second] => within depth first ++ [second]
          | _ => [c]

/-- The character that is preferred to two characters. -/
def composed? (first second : Char) : Option Char :=
  (Hangul.composed? first second).or (Run.source? pairs [first, second])

end SearchSql.Text.Canonical
