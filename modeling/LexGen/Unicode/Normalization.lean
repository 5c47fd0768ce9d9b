/-!
# Normal forms of identifiers

Identifiers that are written differently can be one name: each is replaced by its compatibility normal
form (Unicode 14, NFKC). The tables cover the characters of identifiers, which decompose into each other.
-/

namespace LexGen.Unicode

/-- The decompositions of `first` and the code points after it, with blanks between them. -/
structure DecompositionRow where
  first : Nat
  images : String

def DecompositionRow.image? (row : DecompositionRow) (n : Nat) : Option (List Char) :=
  if n < row.first then none else (row.images.toList.splitOn ' ')[n - row.first]?

/-- What characters are decomposed into, as far as they can be. A character between two others that is
its own image has no decomposition. -/
def decompositionRows : List DecompositionRow := [
  ⟨170, "a"⟩, ⟨181, "μ"⟩, ⟨186, "o"⟩,
  ⟨192, "À Á Â Ã Ä Å Æ Ç È É Ê Ë Ì Í Î Ï Ð Ñ Ò Ó Ô Õ Ö × Ø Ù Ú Û Ü Ý Þ ß"⟩,
  ⟨224, "à á â ã ä å æ ç è é ê ë ì í î ï ð ñ ò ó ô õ ö ÷ ø ù ú û ü ý þ"⟩,
  ⟨255, "ÿ Ā ā Ă ă Ą ą Ć ć Ĉ ĉ Ċ ċ Č č Ď ď Đ đ Ē ē Ĕ ĕ Ė ė Ę ę Ě ě Ĝ"⟩,
  ⟨285, "ĝ Ğ ğ Ġ ġ Ģ ģ Ĥ ĥ Ħ ħ Ĩ ĩ Ī ī Ĭ ĭ Į į İ ı IJ ij Ĵ ĵ Ķ ķ ĸ Ĺ ĺ Ļ"⟩,
  ⟨316, "ļ Ľ ľ L· l· Ł ł Ń ń Ņ ņ Ň ň ʼn Ŋ ŋ Ō ō Ŏ ŏ Ő ő Œ œ Ŕ ŕ Ŗ ŗ Ř ř Ś ś"⟩,
  ⟨348, "Ŝ ŝ Ş ş Š š Ţ ţ Ť ť Ŧ ŧ Ũ ũ Ū ū Ŭ ŭ Ů ů Ű ű Ų ų Ŵ ŵ Ŷ ŷ Ÿ Ź"⟩,
  ⟨378, "ź Ż ż Ž ž s"⟩, ⟨416, "Ơ ơ"⟩, ⟨431, "Ư ư"⟩,
  ⟨452, "DŽ Dž dž LJ Lj lj NJ Nj nj Ǎ ǎ Ǐ ǐ Ǒ ǒ Ǔ ǔ Ǖ ǖ Ǘ ǘ Ǚ ǚ Ǜ ǜ ǝ"⟩,
  ⟨478, "Ǟ ǟ Ǡ ǡ Ǣ ǣ Ǥ ǥ Ǧ ǧ Ǩ ǩ Ǫ ǫ Ǭ ǭ Ǯ ǯ ǰ DZ Dz dz Ǵ ǵ Ƕ Ƿ Ǹ ǹ Ǻ"⟩,
  ⟨507, "ǻ Ǽ ǽ Ǿ ǿ Ȁ ȁ Ȃ ȃ Ȅ ȅ Ȇ ȇ Ȉ ȉ Ȋ ȋ Ȍ ȍ Ȏ ȏ Ȑ ȑ Ȓ ȓ Ȕ ȕ Ȗ ȗ"⟩,
  ⟨536, "Ș ș Ț ț Ȝ ȝ Ȟ ȟ"⟩, ⟨550, "Ȧ ȧ Ȩ ȩ Ȫ ȫ Ȭ ȭ Ȯ ȯ Ȱ ȱ Ȳ ȳ"⟩,
  ⟨688, "h ɦ j r ɹ ɻ ʁ w y"⟩, ⟨736, "ɣ l s x ʕ"⟩, ⟨832, "̀ ́ ͂ ̓ ̈́"⟩, ⟨884, "ʹ"⟩,
  ⟨902, "Ά · Έ Ή Ί ΋ Ό ΍ Ύ Ώ ΐ"⟩, ⟨938, "Ϊ Ϋ ά έ ή ί ΰ"⟩,
  ⟨970, "ϊ ϋ ό ύ ώ Ϗ β θ Υ Ύ Ϋ φ π"⟩, ⟨1008, "κ ρ ς ϳ Θ ε"⟩, ⟨1017, "Σ"⟩,
  ⟨1024, "Ѐ Ё Ђ Ѓ"⟩, ⟨1031, "Ї"⟩, ⟨1036, "Ќ Ѝ Ў"⟩, ⟨1049, "Й"⟩, ⟨1081, "й"⟩,
  ⟨1104, "ѐ ё ђ ѓ"⟩, ⟨1111, "ї"⟩, ⟨1116, "ќ ѝ ў"⟩, ⟨1142, "Ѷ ѷ"⟩, ⟨1217, "Ӂ ӂ"⟩,
  ⟨1232, "Ӑ ӑ Ӓ ӓ Ӕ ӕ Ӗ ӗ Ә ә Ӛ ӛ Ӝ ӝ Ӟ ӟ Ӡ ӡ Ӣ ӣ Ӥ ӥ Ӧ ӧ Ө ө Ӫ ӫ Ӭ ӭ Ӯ ӯ"⟩,
  ⟨1264, "Ӱ ӱ Ӳ ӳ Ӵ ӵ Ӷ ӷ Ӹ ӹ"⟩, ⟨1415, "եւ"⟩, ⟨1570, "آ أ ؤ إ ئ"⟩,
  ⟨1653, "اٴ وٴ ۇٴ يٴ"⟩, ⟨1728, "ۀ ہ ۂ"⟩, ⟨1747, "ۓ"⟩, ⟨2345, "ऩ"⟩, ⟨2353, "ऱ ल ळ ऴ"⟩,
  ⟨2392, "क़ ख़ ग़ ज़ ड़ ढ़ फ़ य़"⟩, ⟨2507, "ো ৌ"⟩, ⟨2524, "ড় ঢ় ৞ য়"⟩, ⟨2611, "ਲ਼ ਴ ਵ ਸ਼"⟩,
  ⟨2649, "ਖ਼ ਗ਼ ਜ਼ ੜ ੝ ਫ਼"⟩, ⟨2888, "ୈ ୉ ୊ ୋ ୌ"⟩, ⟨2908, "ଡ଼ ଢ଼"⟩, ⟨2964, "ஔ"⟩,
  ⟨3018, "ொ ோ ௌ"⟩, ⟨3144, "ై"⟩, ⟨3264, "ೀ"⟩, ⟨3271, "ೇ ೈ ೉ ೊ ೋ"⟩, ⟨3402, "ൊ ോ ൌ"⟩,
  ⟨3546, "ේ ෛ ො ෝ ෞ"⟩, ⟨3635, "ํา"⟩, ⟨3763, "ໍາ"⟩, ⟨3804, "ຫນ ຫມ"⟩, ⟨3907, "གྷ"⟩, ⟨3917, "ཌྷ"⟩,
  ⟨3922, "དྷ"⟩, ⟨3927, "བྷ"⟩, ⟨3932, "ཛྷ"⟩, ⟨3945, "ཀྵ"⟩, ⟨3955, "ཱི ུ ཱུ ྲྀ ྲཱྀ ླྀ ླཱྀ"⟩,
  ⟨3969, "ཱྀ"⟩, ⟨3987, "ྒྷ"⟩, ⟨3997, "ྜྷ"⟩, ⟨4002, "ྡྷ"⟩, ⟨4007, "ྦྷ"⟩, ⟨4012, "ྫྷ"⟩, ⟨4025, "ྐྵ"⟩,
  ⟨4134, "ဦ"⟩, ⟨4348, "ნ"⟩, ⟨6918, "ᬆ ᬇ ᬈ ᬉ ᬊ ᬋ ᬌ ᬍ ᬎ"⟩, ⟨6930, "ᬒ"⟩,
  ⟨6971, "ᬻ ᬼ ᬽ ᬾ ᬿ ᭀ ᭁ ᭂ ᭃ"⟩,
  ⟨7468, "A Æ B ᴯ D E Ǝ G H I J K L M N ᴻ O Ȣ P R T U W a ɐ ɑ ᴂ b d e ə ɛ ɜ g ᵎ k m ŋ o ɔ ᴖ ᴗ p t u"⟩,
  ⟨7513, "ᴝ ɯ v ᴥ β γ δ φ χ i r u v β γ ρ φ χ"⟩, ⟨7544, "н"⟩,
  ⟨7579, "ɒ c ɕ ð ɜ f ɟ ɡ ɥ ɨ ɩ ɪ ᵻ ʝ ɭ ᶅ ʟ ɱ ɰ ɲ ɳ ɴ ɵ ɸ ʂ ʃ ƫ ʉ ʊ ᴜ ʋ ʌ z ʐ ʑ ʒ θ"⟩,
  ⟨7680, "Ḁ ḁ Ḃ ḃ Ḅ ḅ Ḇ ḇ Ḉ ḉ Ḋ ḋ Ḍ ḍ Ḏ ḏ Ḑ ḑ Ḓ ḓ Ḕ ḕ Ḗ ḗ Ḙ ḙ Ḛ ḛ"⟩,
  ⟨7708, "Ḝ ḝ Ḟ ḟ Ḡ ḡ Ḣ ḣ Ḥ ḥ Ḧ ḧ Ḩ ḩ Ḫ ḫ Ḭ ḭ Ḯ ḯ Ḱ ḱ Ḳ ḳ Ḵ ḵ Ḷ ḷ"⟩,
  ⟨7736, "Ḹ ḹ Ḻ ḻ Ḽ ḽ Ḿ ḿ Ṁ ṁ Ṃ ṃ Ṅ ṅ Ṇ ṇ Ṉ ṉ Ṋ ṋ Ṍ ṍ Ṏ ṏ Ṑ ṑ Ṓ"⟩,
  ⟨7763, "ṓ Ṕ ṕ Ṗ ṗ Ṙ ṙ Ṛ ṛ Ṝ ṝ Ṟ ṟ Ṡ ṡ Ṣ ṣ Ṥ ṥ Ṧ ṧ Ṩ ṩ Ṫ ṫ Ṭ ṭ"⟩,
  ⟨7790, "Ṯ ṯ Ṱ ṱ Ṳ ṳ Ṵ ṵ Ṷ ṷ Ṹ ṹ Ṻ ṻ Ṽ ṽ Ṿ ṿ Ẁ ẁ Ẃ ẃ Ẅ ẅ Ẇ ẇ Ẉ ẉ"⟩,
  ⟨7818, "Ẋ ẋ Ẍ ẍ Ẏ ẏ Ẑ ẑ Ẓ ẓ Ẕ ẕ ẖ ẗ ẘ ẙ aʾ ṡ"⟩,
  ⟨7840, "Ạ ạ Ả ả Ấ ấ Ầ ầ Ẩ ẩ Ẫ ẫ Ậ ậ Ắ ắ Ằ ằ Ẳ ẳ Ẵ ẵ Ặ"⟩,
  ⟨7863, "ặ Ẹ ẹ Ẻ ẻ Ẽ ẽ Ế ế Ề ề Ể ể Ễ ễ Ệ ệ Ỉ ỉ Ị ị Ọ ọ Ỏ ỏ Ố"⟩,
  ⟨7889, "ố Ồ ồ Ổ ổ Ỗ ỗ Ộ ộ Ớ ớ Ờ ờ Ở ở Ỡ ỡ Ợ ợ Ụ ụ Ủ ủ"⟩,
  ⟨7912, "Ứ ứ Ừ ừ Ử ử Ữ ữ Ự ự Ỳ ỳ Ỵ ỵ Ỷ ỷ Ỹ ỹ"⟩,
  ⟨7936, "ἀ ἁ ἂ ἃ ἄ ἅ ἆ ἇ Ἀ Ἁ Ἂ Ἃ Ἄ Ἅ Ἆ Ἇ ἐ ἑ ἒ ἓ ἔ ἕ ἖ ἗ Ἐ"⟩,
  ⟨7961, "Ἑ Ἒ Ἓ Ἔ Ἕ ἞ ἟ ἠ ἡ ἢ ἣ ἤ ἥ ἦ ἧ Ἠ Ἡ Ἢ Ἣ Ἤ Ἥ Ἦ Ἧ ἰ ἱ"⟩,
  ⟨7986, "ἲ ἳ ἴ ἵ ἶ ἷ Ἰ Ἱ Ἲ Ἳ Ἴ Ἵ Ἶ Ἷ ὀ ὁ ὂ ὃ ὄ ὅ ὆ ὇ Ὀ Ὁ Ὂ"⟩,
  ⟨8011, "Ὃ Ὄ Ὅ ὎ ὏ ὐ ὑ ὒ ὓ ὔ ὕ ὖ ὗ ὘ Ὑ ὚ Ὓ ὜ Ὕ ὞ Ὗ ὠ ὡ ὢ ὣ ὤ"⟩,
  ⟨8037, "ὥ ὦ ὧ Ὠ Ὡ Ὢ Ὣ Ὤ Ὥ Ὦ Ὧ ὰ ά ὲ έ ὴ ή ὶ ί ὸ ό ὺ ύ ὼ ώ ὾ ὿"⟩,
  ⟨8064, "ᾀ ᾁ ᾂ ᾃ ᾄ ᾅ ᾆ ᾇ ᾈ ᾉ ᾊ ᾋ ᾌ ᾍ ᾎ ᾏ ᾐ ᾑ ᾒ"⟩,
  ⟨8083, "ᾓ ᾔ ᾕ ᾖ ᾗ ᾘ ᾙ ᾚ ᾛ ᾜ ᾝ ᾞ ᾟ ᾠ ᾡ ᾢ ᾣ ᾤ"⟩,
  ⟨8101, "ᾥ ᾦ ᾧ ᾨ ᾩ ᾪ ᾫ ᾬ ᾭ ᾮ ᾯ ᾰ ᾱ ᾲ ᾳ ᾴ ᾵ ᾶ ᾷ Ᾰ Ᾱ Ὰ"⟩,
  ⟨8123, "Ά ᾼ ᾽ ι"⟩, ⟨8130, "ῂ ῃ ῄ ῅ ῆ ῇ Ὲ Έ Ὴ Ή ῌ"⟩,
  ⟨8144, "ῐ ῑ ῒ ΐ ῔ ῕ ῖ ῗ Ῐ Ῑ Ὶ Ί"⟩,
  ⟨8160, "ῠ ῡ ῢ ΰ ῤ ῥ ῦ ῧ Ῠ Ῡ Ὺ Ύ Ῥ"⟩, ⟨8178, "ῲ ῳ ῴ ῵ ῶ ῷ Ὸ Ό Ὼ Ώ ῼ"⟩,
  ⟨8305, "i"⟩, ⟨8319, "n"⟩, ⟨8336, "a e o x ə h k l m n p s t"⟩, ⟨8450, "C"⟩,
  ⟨8455, "Ɛ ℈ ℉ g H H H h ħ I I L l ℔ N"⟩, ⟨8473, "P Q R R R"⟩,
  ⟨8484, "Z ℥ Ω ℧ Z ℩ K Å B C ℮ e E F Ⅎ M o א ב ג ד i ℺ ℻ π γ Γ Π"⟩, ⟨8517, "D d e i j"⟩,
  ⟨8544, "I II III IV V VI VII VIII IX X XI XII L C D M i ii iii iv v vi vii viii ix x xi xii l c d"⟩,
  ⟨8575, "m"⟩, ⟨11388, "j V"⟩, ⟨11631, "ⵡ"⟩, ⟨12344, "十 卄 卅"⟩,
  ⟨12364, "が き ぎ く ぐ け げ こ ご さ ざ し じ す ず せ ぜ そ ぞ た だ ち ぢ っ つ づ て で と ど"⟩,
  ⟨12400, "ば ぱ ひ び ぴ ふ ぶ ぷ へ べ ぺ ほ ぼ ぽ"⟩, ⟨12436, "ゔ"⟩, ⟨12446, "ゞ より"⟩,
  ⟨12460, "ガ キ ギ ク グ ケ ゲ コ ゴ サ ザ シ ジ ス ズ セ ゼ ソ ゾ タ ダ チ ヂ ッ ツ ヅ テ デ ト ド"⟩,
  ⟨12496, "バ パ ヒ ビ ピ フ ブ プ ヘ ベ ペ ホ ボ ポ"⟩, ⟨12532, "ヴ ヵ ヶ ヷ ヸ ヹ ヺ"⟩, ⟨12542, "ヾ コト"⟩,
  ⟨12593, "ᄀ ᄁ ᆪ ᄂ ᆬ ᆭ ᄃ ᄄ ᄅ ᆰ ᆱ ᆲ ᆳ ᆴ ᆵ ᄚ ᄆ ᄇ ᄈ ᄡ ᄉ ᄊ ᄋ ᄌ ᄍ ᄎ ᄏ ᄐ ᄑ ᄒ ᅡ ᅢ ᅣ ᅤ ᅥ ᅦ ᅧ ᅨ ᅩ ᅪ ᅫ ᅬ ᅭ ᅮ ᅯ"⟩,
  ⟨12638, "ᅰ ᅱ ᅲ ᅳ ᅴ ᅵ ᅠ ᄔ ᄕ ᇇ ᇈ ᇌ ᇎ ᇓ ᇗ ᇙ ᄜ ᇝ ᇟ ᄝ ᄞ ᄠ ᄢ ᄣ ᄧ ᄩ ᄫ ᄬ ᄭ ᄮ ᄯ ᄲ ᄶ ᅀ ᅇ ᅌ ᇱ ᇲ ᅗ ᅘ ᅙ ᆄ ᆅ ᆈ ᆑ"⟩,
  ⟨12683, "ᆒ ᆔ ᆞ ᆡ"⟩, ⟨42652, "ъ ь"⟩, ⟨42864, "ꝯ"⟩, ⟨42994, "C F Q"⟩, ⟨43000, "Ħ œ"⟩,
  ⟨43868, "ꜧ ꬷ ɫ ꭒ"⟩, ⟨43881, "ʍ"⟩,
  ⟨63744, "豈 更 車 賈 滑 串 句 龜 龜 契 金 喇 奈 懶 癩 羅 蘿 螺 裸 邏 樂 洛 烙 珞 落 酪 駱 亂 卵 欄 爛 蘭 鸞 嵐 濫 藍 襤 拉 臘 蠟 廊 朗 浪 狼 郎"⟩,
  ⟨63789, "來 冷 勞 擄 櫓 爐 盧 老 蘆 虜 路 露 魯 鷺 碌 祿 綠 菉 錄 鹿 論 壟 弄 籠 聾 牢 磊 賂 雷 壘 屢 樓 淚 漏 累 縷 陋 勒 肋 凜 凌 稜 綾 菱 陵"⟩,
  ⟨63834, "讀 拏 樂 諾 丹 寧 怒 率 異 北 磻 便 復 不 泌 數 索 參 塞 省 葉 說 殺 辰 沈 拾 若 掠 略 亮 兩 凉 梁 糧 良 諒 量 勵 呂 女 廬 旅 濾 礪 閭"⟩,
  ⟨63879, "驪 麗 黎 力 曆 歷 轢 年 憐 戀 撚 漣 煉 璉 秊 練 聯 輦 蓮 連 鍊 列 劣 咽 烈 裂 說 廉 念 捻 殮 簾 獵 令 囹 寧 嶺 怜 玲 瑩 羚 聆 鈴 零 靈"⟩,
  ⟨63924, "領 例 禮 醴 隸 惡 了 僚 寮 尿 料 樂 燎 療 蓼 遼 龍 暈 阮 劉 杻 柳 流 溜 琉 留 硫 紐 類 六 戮 陸 倫 崙 淪 輪 律 慄 栗 率 隆 利 吏 履 易"⟩,
  ⟨63969, "李 梨 泥 理 痢 罹 裏 裡 里 離 匿 溺 吝 燐 璘 藺 隣 鱗 麟 林 淋 臨 立 笠 粒 狀 炙 識 什 茶 刺 切 度 拓 糖 宅 洞 暴 輻 行 降 見 廓 兀 嗀"⟩,
  ⟨64014, "﨎 﨏 塚 﨑 晴 﨓 﨔 凞 猪 益 礼 神 祥 福 靖 精 羽 﨟 蘒 﨡 諸 﨣 﨤 逸 都"⟩,
  ⟨64042, "飯 飼 館 鶴 郞 隷 侮 僧 免 勉 勤 卑 喝 嘆 器 塀 墨 層 屮 悔 慨 憎 懲 敏 既 暑 梅 海 渚 漢 煮 爫 琢 碑 社 祉 祈 祐 祖 祝 禍 禎 穀 突 節"⟩,
  ⟨64087, "練 縉 繁 署 者 臭 艹 艹 著 褐 視 謁 謹 賓 贈 辶 逸 難 響 頻 恵 𤋮 舘 﩮 﩯 並 况 全 侀 充 冀 勇 勺 喝 啕 喙 嗢 塚 墳 奄 奔 婢 嬨 廒 廙"⟩,
  ⟨64132, "彩 徭 惘 慎 愈 憎 慠 懲 戴 揄 搜 摒 敖 晴 朗 望 杖 歹 殺 流 滛 滋 漢 瀞 煮 瞧 爵 犯 猪 瑱 甆 画 瘝 瘟 益 盛 直 睊 着 磌 窱 節 类 絛 練"⟩,
  ⟨64177, "缾 者 荒 華 蝹 襁 覆 視 調 諸 請 謁 諾 諭 謹 變 贈 輸 遲 醙 鉶 陼 難 靖 韛 響 頋 頻 鬒 龜 𢡊 𢡄 𣏕 㮝 䀘 䀹 𥉉 𥳐 𧻓 齃 龎"⟩,
  ⟨64256, "ff fi fl ffi ffl st st"⟩, ⟨64275, "մն մե մի վն մխ"⟩,
  ⟨64285, "יִ ﬞ ײַ ע א ד ה כ ל ם ר ת ﬩ שׁ שׂ שּׁ שּׂ אַ אָ אּ בּ גּ דּ הּ וּ זּ ﬷ טּ יּ ךּ כּ לּ ﬽"⟩,
  ⟨64318, "מּ ﬿ נּ סּ ﭂ ףּ פּ ﭅ צּ קּ רּ שּ תּ וֹ בֿ כֿ פֿ אל ٱ ٱ ٻ ٻ ٻ ٻ پ پ پ پ ڀ ڀ ڀ ڀ ٺ ٺ ٺ ٺ ٿ"⟩,
  ⟨64355, "ٿ ٿ ٿ ٹ ٹ ٹ ٹ ڤ ڤ ڤ ڤ ڦ ڦ ڦ ڦ ڄ ڄ ڄ ڄ ڃ ڃ ڃ ڃ چ چ چ چ ڇ ڇ ڇ ڇ ڍ ڍ ڌ ڌ ڎ ڎ ڈ ڈ ژ ژ ڑ ڑ ک ک"⟩,
  ⟨64400, "ک ک گ گ گ گ ڳ ڳ ڳ ڳ ڱ ڱ ڱ ڱ ں ں ڻ ڻ ڻ ڻ ۀ ۀ ہ ہ ہ ہ ھ ھ ھ ھ ے ے ۓ ۓ"⟩,
  ⟨64467, "ڭ ڭ ڭ ڭ ۇ ۇ ۆ ۆ ۈ ۈ ۇٴ ۋ ۋ ۅ ۅ ۉ ۉ ې ې ې ې ى ى ئا ئا ئە ئە ئو ئو ئۇ ئۇ ئۆ ئۆ"⟩,
  ⟨64500, "ئۈ ئۈ ئې ئې ئې ئى ئى ئى ی ی ی ی ئج ئح ئم ئى ئي بج بح بخ بم بى بي تج تح تخ تم"⟩,
  ⟨64527, "تى تي ثج ثم ثى ثي جح جم حج حم خج خح خم سج سح سخ سم صح صم ضج ضح ضخ ضم طح طم ظم عج عم غج غم"⟩,
  ⟨64557, "فج فح فخ فم فى في قح قم قى قي كا كج كح كخ كل كم كى كي لج لح لخ لم لى لي مج مح مخ مم مى مي"⟩,
  ⟨64587, "نج نح نخ نم نى ني هج هم هى هي يج يح يخ يم يى يي ذٰ رٰ ىٰ"⟩,
  ⟨64612, "ئر ئز ئم ئن ئى ئي بر بز بم بن بى بي تر تز تم تن تى تي ثر ثز ثم ثن ثى ثي فى في قى قي"⟩,
  ⟨64640, "كا كل كم كى كي لم لى لي ما مم نر نز نم نن نى ني ىٰ ير يز يم ين يى يي ئج ئح ئخ ئم ئه"⟩,
  ⟨64668, "بج بح بخ بم به تج تح تخ تم ته ثم جح جم حج حم خج خم سج سح سخ سم صح صخ صم ضج ضح ضخ ضم طح ظم"⟩,
  ⟨64698, "عج عم غج غم فج فح فخ فم قح قم كج كح كخ كل كم لج لح لخ لم له مج مح مخ مم نج نح نخ نم نه هج"⟩,
  ⟨64728, "هم هٰ يج يح يخ يم يه ئم ئه بم به تم ته ثم ثه سم سه شم شه كل كم لم نم نه يم يه ـَّ ـُّ"⟩,
  ⟨64756, "ـِّ طى طي عى عي غى غي سى سي شى شي حى حي جى جي خى خي صى صي ضى ضي شج شح شخ شم شر سر صر ضر"⟩,
  ⟨64785, "طى طي عى عي غى غي سى سي شى شي حى حي جى جي خى خي صى صي ضى ضي شج شح شخ شم شر سر صر ضر شج شح"⟩,
  ⟨64815, "شخ شم سه شه طم سج سح سخ شج شح شخ طم ظم اً اً"⟩,
  ⟨64848, "تجم تحج تحج تحم تخم تمج تمح تمخ جمح جمح حمي حمى سحج سجح سجى سمح سمح سمج سمم سمم صحح صحح"⟩,
  ⟨64870, "صمم شحم شحم شجي شمخ شمخ شمم شمم ضحى ضخم ضخم طمح طمح طمم طمي عجم عمم عمم عمى غمم غمي غمى"⟩,
  ⟨64892, "فخم فخم قمح قمم لحم لحي لحى لجج لجج لخم لخم لمح لمح محج محم محي مجح مجم مخج مخم ﶐ ﶑ مجخ"⟩,
  ⟨64915, "همج همم نحم نحى نجم نجم نجى نمي نمى يمم يمم بخي تجي تجى تخي تخى تمي تمى جمي جحى جمى سخى"⟩,
  ⟨64937, "صحي شحي ضحي لجي لمي يحي يجي يمي ممي قمي نحي قمح لحم عمي كمي نجح مخي لجم كمم لجم نجح جحي"⟩,
  ⟨64959, "حجي مجي فمي بحي كمم عجم صمم سخي نجي"⟩,
  ⟨65008, "صلے قلے الله اكبر محمد صلعم رسول عليه وسلم صلى"⟩, ⟨65075, "_ _"⟩, ⟨65101, "_ _ _"⟩,
  ⟨65137, "ـً"⟩,
  ⟨65143, "ـَ ﹸ ـُ ﹺ ـِ ﹼ ـّ ﹾ ـْ ء آ آ أ أ ؤ ؤ إ إ ئ ئ ئ ئ ا ا ب ب ب ب ة ة ت ت ت ت ث ث"⟩,
  ⟨65179, "ث ث ج ج ج ج ح ح ح ح خ خ خ خ د د ذ ذ ر ر ز ز س س س س ش ش ش ش ص ص ص ص ض ض ض ض ط ط ط ط ظ ظ ظ"⟩,
  ⟨65224, "ظ ع ع ع ع غ غ غ غ ف ف ف ف ق ق ق ق ك ك ك ك ل ل ل ل م م م م ن ن ن ن ه ه ه ه و و ى ى ي ي ي ي"⟩,
  ⟨65269, "لآ لآ لأ لأ لإ لإ لا لا"⟩, ⟨65296, "0 1 2 3 4 5 6 7 8 9"⟩,
  ⟨65313, "A B C D E F G H I J K L M N O P Q R S T U V W X Y Z"⟩,
  ⟨65343, "_ ｀ a b c d e f g h i j k l m n o p q r s t u v w x y z"⟩,
  ⟨65382, "ヲ ァ ィ ゥ ェ ォ ャ ュ ョ ッ ー ア イ ウ エ オ カ キ ク ケ コ サ シ ス セ ソ タ チ ツ テ ト ナ ニ ヌ ネ ノ ハ ヒ フ ヘ ホ マ ミ ム メ"⟩,
  ⟨65427, "モ ヤ ユ ヨ ラ リ ル レ ロ ワ ン ゙ ゚ ᅠ ᄀ ᄁ ᆪ ᄂ ᆬ ᆭ ᄃ ᄄ ᄅ ᆰ ᆱ ᆲ ᆳ ᆴ ᆵ ᄚ ᄆ ᄇ ᄈ ᄡ ᄉ ᄊ ᄋ ᄌ ᄍ ᄎ ᄏ ᄐ ᄑ ᄒ"⟩,
  ⟨65474, "ᅡ ᅢ ᅣ ᅤ ᅥ ᅦ ￈ ￉ ᅧ ᅨ ᅩ ᅪ ᅫ ᅬ ￐ ￑ ᅭ ᅮ ᅯ ᅰ ᅱ ᅲ ￘ ￙ ᅳ ᅴ ᅵ"⟩,
  ⟨67457, "ː ˑ æ ʙ ɓ 𐞆 ʣ ꭦ ʥ ʤ ɖ ɗ ᶑ ɘ ɞ ʩ ɤ ɢ ɠ ʛ ħ ʜ ɧ ʄ ʪ ʫ ɬ 𝼄 ꞎ ɮ 𝼅 ʎ 𝼆 ø ɶ ɷ q ɺ 𝼈 ɽ ɾ ʀ ʨ ʦ ꭧ"⟩,
  ⟨67502, "ʧ ʈ ⱱ 𐞱 ʏ ʡ ʢ ʘ ǀ ǁ ǂ 𝼊 𝼞"⟩, ⟨69786, "𑂚 𑂛 𑂜"⟩, ⟨69803, "𑂫"⟩, ⟨69934, "𑄮 𑄯"⟩,
  ⟨70475, "𑍋 𑍌"⟩, ⟨70843, "𑒻 𑒼 𑒽 𑒾"⟩, ⟨71098, "𑖺 𑖻"⟩, ⟨71992, "𑤸"⟩,
  ⟨119808, "A B C D E F G H I J K L M N O P Q R S T U V W X Y Z a b c d e f g h i j k l m n o p q r s"⟩,
  ⟨119853, "t u v w x y z A B C D E F G H I J K L M N O P Q R S T U V W X Y Z a b c d e f g 𝑕 i j k l"⟩,
  ⟨119898, "m n o p q r s t u v w x y z A B C D E F G H I J K L M N O P Q R S T U V W X Y Z a b c d e"⟩,
  ⟨119943, "f g h i j k l m n o p q r s t u v w x y z A 𝒝 C D 𝒠 𝒡 G 𝒣 𝒤 J K 𝒧 𝒨 N O P Q 𝒭 S T U V W X"⟩,
  ⟨119988, "Y Z a b c d 𝒺 f 𝒼 h i j k l m n 𝓄 p q r s t u v w x y z A B C D E F G H I J K L M N O P Q"⟩,
  ⟨120033, "R S T U V W X Y Z a b c d e f g h i j k l m n o p q r s t u v w x y z A B 𝔆 D E F G 𝔋 𝔌 J"⟩,
  ⟨120078, "K L M N O P Q 𝔕 S T U V W X Y 𝔝 a b c d e f g h i j k l m n o p q r s t u v w x y z A B 𝔺"⟩,
  ⟨120123, "D E F G 𝔿 I J K L M 𝕅 O"⟩,
  ⟨120138, "S T U V W X Y 𝕑 a b c d e f g h i j k l m n o p q r s t u v w x y z A B C D E F G H I J K"⟩,
  ⟨120183, "L M N O P Q R S T U V W X Y Z a b c d e f g h i j k l m n o p q r s t u v w x y z A B C D"⟩,
  ⟨120228, "E F G H I J K L M N O P Q R S T U V W X Y Z a b c d e f g h i j k l m n o p q r s t u v w"⟩,
  ⟨120273, "x y z A B C D E F G H I J K L M N O P Q R S T U V W X Y Z a b c d e f g h i j k l m n o p"⟩,
  ⟨120318, "q r s t u v w x y z A B C D E F G H I J K L M N O P Q R S T U V W X Y Z a b c d e f g h i"⟩,
  ⟨120363, "j k l m n o p q r s t u v w x y z A B C D E F G H I J K L M N O P Q R S T U V W X Y Z a b"⟩,
  ⟨120408, "c d e f g h i j k l m n o p q r s t u v w x y z A B C D E F G H I J K L M N O P Q R S T U"⟩,
  ⟨120453, "V W X Y Z a b c d e f g h i j k l m n o p q r s t u v w x y z ı ȷ 𝚦 𝚧 Α Β Γ Δ Ε Ζ Η Θ Ι Κ"⟩,
  ⟨120498, "Λ Μ Ν Ξ Ο Π Ρ Θ Σ Τ Υ Φ Χ Ψ Ω 𝛁 α β γ δ ε ζ η θ ι κ λ μ ν ξ ο π ρ ς σ τ υ φ χ ψ ω 𝛛 ε θ κ"⟩,
  ⟨120543, "φ ρ π Α Β Γ Δ Ε Ζ Η Θ Ι Κ Λ Μ Ν Ξ Ο Π Ρ Θ Σ Τ Υ Φ Χ Ψ Ω 𝛻 α β γ δ ε ζ η θ ι κ λ μ ν ξ ο π"⟩,
  ⟨120588, "ρ ς σ τ υ φ χ ψ ω 𝜕 ε θ κ φ ρ π Α Β Γ Δ Ε Ζ Η Θ Ι Κ Λ Μ Ν Ξ Ο Π Ρ Θ Σ Τ Υ Φ Χ Ψ Ω 𝜵 α β γ"⟩,
  ⟨120633, "δ ε ζ η θ ι κ λ μ ν ξ ο π ρ ς σ τ υ φ χ ψ ω 𝝏 ε θ κ φ ρ π Α Β Γ Δ Ε Ζ Η Θ Ι Κ Λ Μ Ν Ξ Ο Π"⟩,
  ⟨120678, "Ρ Θ Σ Τ Υ Φ Χ Ψ Ω 𝝯 α β γ δ ε ζ η θ ι κ λ μ ν ξ ο π ρ ς σ τ υ φ χ ψ ω 𝞉 ε θ κ φ ρ π Α Β Γ"⟩,
  ⟨120723, "Δ Ε Ζ Η Θ Ι Κ Λ Μ Ν Ξ Ο Π Ρ Θ Σ Τ Υ Φ Χ Ψ Ω 𝞩 α β γ δ ε ζ η θ ι κ λ μ ν ξ ο π ρ ς σ τ υ φ"⟩,
  ⟨120768, "χ ψ ω 𝟃 ε θ κ φ ρ π Ϝ ϝ 𝟌 𝟍 0 1 2 3 4 5 6 7 8 9 0 1 2 3 4 5 6 7 8 9 0 1 2 3 4 5 6 7 8 9 0"⟩,
  ⟨120813, "1 2 3 4 5 6 7 8 9 0 1 2 3 4 5 6 7 8 9"⟩,
  ⟨126464, "ا ب ج د 𞸄 و ز ح ط ي ك ل م ن س ع ف ص ق ر ش ت ث خ ذ ض ظ غ ٮ ں ڡ ٯ 𞸠 ب ج 𞸣 ه 𞸥 𞸦 ح 𞸨 ي ك ل م"⟩,
  ⟨126509, "ن س ع ف ص ق 𞸳 ش ت ث خ 𞸸 ض 𞸺 غ"⟩, ⟨126530, "ج"⟩,
  ⟨126535, "ح 𞹈 ي 𞹊 ل 𞹌 ن س ع 𞹐 ص ق 𞹓 ش 𞹕 𞹖 خ 𞹘 ض 𞹚 غ 𞹜 ں 𞹞 ٯ 𞹠 ب ج 𞹣 ه 𞹥 𞹦 ح ط ي ك 𞹫 م ن س ع ف ص ق 𞹳"⟩,
  ⟨126580, "ش ت ث خ 𞹸 ض ظ غ ٮ 𞹽 ڡ 𞹿 ا ب ج د ه و ز ح ط ي 𞺊 ل م ن س ع ف ص ق ر ش ت ث خ ذ ض ظ غ"⟩,
  ⟨126625, "ب ج د 𞺤 و ز ح ط ي 𞺪 ل م ن س ع ف ص ق ر ش ت ث خ ذ ض ظ غ"⟩,
  ⟨130032, "0 1 2 3 4 5 6 7 8 9"⟩,
  ⟨194560, "丽 丸 乁 𠄢 你 侮 侻 倂 偺 備 僧 像 㒞 𠘺 免 兔 兤 具 𠔜 㒹 內 再 𠕋 冗 冤 仌 冬 况 𩇟 凵 刃 㓟 刻 剆 割 剷 㔕 勇 勉 勤 勺 包 匆 北 卉"⟩,
  ⟨194605, "卑 博 即 卽 卿 卿 卿 𠨬 灰 及 叟 𠭣 叫 叱 吆 咞 吸 呈 周 咢 哶 唐 啓 啣 善 善 喙 喫 喳 嗂 圖 嘆 圗 噑 噴 切 壮 城 埴 堍 型 堲 報 墬 𡓤"⟩,
  ⟨194650, "売 壷 夆 多 夢 奢 𡚨 𡛪 姬 娛 娧 姘 婦 㛮 㛼 嬈 嬾 嬾 𡧈 寃 寘 寧 寳 𡬘 寿 将 当 尢 㞁 屠 屮 峀 岍 𡷤 嵃 𡷦 嵮 嵫 嵼 巡 巢 㠯 巽 帨 帽"⟩,
  ⟨194695, "幩 㡢 𢆃 㡼 庰 庳 庶 廊 𪎒 廾 𢌱 𢌱 舁 弢 弢 㣇 𣊸 𦇚 形 彫 㣣 徚 忍 志 忹 悁 㤺 㤜 悔 𢛔 惇 慈 慌 慎 慌 慺 憎 憲 憤 憯 懞 懲 懶 成 戛"⟩,
  ⟨194740, "扝 抱 拔 捐 𢬌 挽 拼 捨 掃 揤 𢯱 搢 揅 掩 㨮 摩 摾 撝 摷 㩬 敏 敬 𣀊 旣 書 晉 㬙 暑 㬈 㫤 冒 冕 最 暜 肭 䏙 朗 望 朡 杞 杓 𣏃 㭉 柺 枅"⟩,
  ⟨194785, "桒 梅 𣑭 梎 栟 椔 㮝 楂 榣 槪 檨 𣚣 櫛 㰘 次 𣢧 歔 㱎 歲 殟 殺 殻 𣪍 𡴋 𣫺 汎 𣲼 沿 泍 汧 洖 派 海 流 浩 浸 涅 𣴞 洴 港 湮 㴳 滋 滇 𣻑"⟩,
  ⟨194830, "淹 潮 𣽞 𣾎 濆 瀹 瀞 瀛 㶖 灊 災 灷 炭 𠔥 煅 𤉣 熜 𤎫 爨 爵 牐 𤘈 犀 犕 𤜵 𤠔 獺 王 㺬 玥 㺸 㺸 瑇 瑜 瑱 璅 瓊 㼛 甤 𤰶 甾 𤲒 異 𢆟 瘐"⟩,
  ⟨194875, "𤾡 𤾸 𥁄 㿼 䀈 直 𥃳 𥃲 𥄙 𥄳 眞 真 真 睊 䀹 瞋 䁆 䂖 𥐝 硎 碌 磌 䃣 𥘦 祖 𥚚 𥛅 福 秫 䄯 穀 穊 穏 𥥼 𥪧 𥪧 竮 䈂 𥮫 篆 築 䈧 𥲀 糒 䊠"⟩,
  ⟨194920, "糨 糣 紀 𥾆 絣 䌁 緇 縂 繅 䌴 𦈨 𦉇 䍙 𦋙 罺 𦌾 羕 翺 者 𦓚 𦔣 聠 𦖨 聰 𣍟 䏕 育 脃 䐋 脾 媵 𦞧 𦞵 𣎓 𣎜 舁 舄 辞 䑫 芑 芋 芝 劳 花 芳"⟩,
  ⟨194965, "芽 苦 𦬼 若 茝 荣 莭 茣 莽 菧 著 荓 菊 菌 菜 𦰶 𦵫 𦳕 䔫 蓱 蓳 蔖 𧏊 蕤 𦼬 䕝 䕡 𦾱 𧃒 䕫 虐 虜 虧 虩 蚩 蚈 蜎 蛢 蝹 蜨 蝫 螆 䗗 蟡 蠁"⟩,
  ⟨195010, "䗹 衠 衣 𧙧 裗 裞 䘵 裺 㒻 𧢮 𧥦 䚾 䛇 誠 諭 變 豕 𧲨 貫 賁 贛 起 𧼯 𠠄 跋 趼 跰 𠣞 軔 輸 𨗒 𨗭 邔 郱 鄑 𨜮 鄛 鈸 鋗 鋘 鉼 鏹 鐕 𨯺 開"⟩,
  ⟨195055, "䦕 閷 𨵷 䧦 雃 嶲 霣 𩅅 𩈚 䩮 䩶 韠 𩐊 䪲 𩒖 頋 頋 頩 𩖶 飢 䬳 餩 馧 駂 駾 䯎 𩬰 鬒 鱀 鳽 䳎 䳭 鵧 𪃎 䳸 𪄅 𪈎 𪊑 麻 䵖 黹 黾 鼅 鼏 鼖"⟩,
  ⟨195100, "鼻 𪘀"⟩]

/-- The code points `first`, …, `last` have the combining class `order`. -/
structure CombiningRun where
  first : Nat
  last : Nat
  order : Nat

/-- The marks that combine with the character before them. All other characters have the class zero. -/
def combiningRuns : List CombiningRun := [
  ⟨768, 788, 230⟩, ⟨789, 789, 232⟩, ⟨790, 793, 220⟩, ⟨794, 794, 232⟩, ⟨795, 795, 216⟩,
  ⟨796, 800, 220⟩, ⟨801, 802, 202⟩, ⟨803, 806, 220⟩, ⟨807, 808, 202⟩, ⟨809, 819, 220⟩,
  ⟨820, 824, 1⟩, ⟨825, 828, 220⟩, ⟨829, 836, 230⟩, ⟨837, 837, 240⟩, ⟨838, 838, 230⟩,
  ⟨839, 841, 220⟩, ⟨842, 844, 230⟩, ⟨845, 846, 220⟩, ⟨848, 850, 230⟩, ⟨851, 854, 220⟩,
  ⟨855, 855, 230⟩, ⟨856, 856, 232⟩, ⟨857, 858, 220⟩, ⟨859, 859, 230⟩, ⟨860, 860, 233⟩,
  ⟨861, 862, 234⟩, ⟨863, 863, 233⟩, ⟨864, 865, 234⟩, ⟨866, 866, 233⟩, ⟨867, 879, 230⟩,
  ⟨1155, 1159, 230⟩, ⟨1425, 1425, 220⟩, ⟨1426, 1429, 230⟩, ⟨1430, 1430, 220⟩, ⟨1431, 1433, 230⟩,
  ⟨1434, 1434, 222⟩, ⟨1435, 1435, 220⟩, ⟨1436, 1441, 230⟩, ⟨1442, 1447, 220⟩, ⟨1448, 1449, 230⟩,
  ⟨1450, 1450, 220⟩, ⟨1451, 1452, 230⟩, ⟨1453, 1453, 222⟩, ⟨1454, 1454, 228⟩, ⟨1455, 1455, 230⟩,
  ⟨1456, 1456, 10⟩, ⟨1457, 1457, 11⟩, ⟨1458, 1458, 12⟩, ⟨1459, 1459, 13⟩, ⟨1460, 1460, 14⟩,
  ⟨1461, 1461, 15⟩, ⟨1462, 1462, 16⟩, ⟨1463, 1463, 17⟩, ⟨1464, 1464, 18⟩, ⟨1465, 1466, 19⟩,
  ⟨1467, 1467, 20⟩, ⟨1468, 1468, 21⟩, ⟨1469, 1469, 22⟩, ⟨1471, 1471, 23⟩, ⟨1473, 1473, 24⟩,
  ⟨1474, 1474, 25⟩, ⟨1476, 1476, 230⟩, ⟨1477, 1477, 220⟩, ⟨1479, 1479, 18⟩, ⟨1552, 1559, 230⟩,
  ⟨1560, 1560, 30⟩, ⟨1561, 1561, 31⟩, ⟨1562, 1562, 32⟩, ⟨1611, 1611, 27⟩, ⟨1612, 1612, 28⟩,
  ⟨1613, 1613, 29⟩, ⟨1614, 1614, 30⟩, ⟨1615, 1615, 31⟩, ⟨1616, 1616, 32⟩, ⟨1617, 1617, 33⟩,
  ⟨1618, 1618, 34⟩, ⟨1619, 1620, 230⟩, ⟨1621, 1622, 220⟩, ⟨1623, 1627, 230⟩, ⟨1628, 1628, 220⟩,
  ⟨1629, 1630, 230⟩, ⟨1631, 1631, 220⟩, ⟨1648, 1648, 35⟩, ⟨1750, 1756, 230⟩, ⟨1759, 1762, 230⟩,
  ⟨1763, 1763, 220⟩, ⟨1764, 1764, 230⟩, ⟨1767, 1768, 230⟩, ⟨1770, 1770, 220⟩, ⟨1771, 1772, 230⟩,
  ⟨1773, 1773, 220⟩, ⟨1809, 1809, 36⟩, ⟨1840, 1840, 230⟩, ⟨1841, 1841, 220⟩, ⟨1842, 1843, 230⟩,
  ⟨1844, 1844, 220⟩, ⟨1845, 1846, 230⟩, ⟨1847, 1849, 220⟩, ⟨1850, 1850, 230⟩, ⟨1851, 1852, 220⟩,
  ⟨1853, 1853, 230⟩, ⟨1854, 1854, 220⟩, ⟨1855, 1857, 230⟩, ⟨1858, 1858, 220⟩, ⟨1859, 1859, 230⟩,
  ⟨1860, 1860, 220⟩, ⟨1861, 1861, 230⟩, ⟨1862, 1862, 220⟩, ⟨1863, 1863, 230⟩, ⟨1864, 1864, 220⟩,
  ⟨1865, 1866, 230⟩, ⟨2027, 2033, 230⟩, ⟨2034, 2034, 220⟩, ⟨2035, 2035, 230⟩, ⟨2045, 2045, 220⟩,
  ⟨2070, 2073, 230⟩, ⟨2075, 2083, 230⟩, ⟨2085, 2087, 230⟩, ⟨2089, 2093, 230⟩, ⟨2137, 2139, 220⟩,
  ⟨2200, 2200, 230⟩, ⟨2201, 2203, 220⟩, ⟨2204, 2207, 230⟩, ⟨2250, 2254, 230⟩, ⟨2255, 2259, 220⟩,
  ⟨2260, 2273, 230⟩, ⟨2275, 2275, 220⟩, ⟨2276, 2277, 230⟩, ⟨2278, 2278, 220⟩, ⟨2279, 2280, 230⟩,
  ⟨2281, 2281, 220⟩, ⟨2282, 2284, 230⟩, ⟨2285, 2287, 220⟩, ⟨2288, 2288, 27⟩, ⟨2289, 2289, 28⟩,
  ⟨2290, 2290, 29⟩, ⟨2291, 2293, 230⟩, ⟨2294, 2294, 220⟩, ⟨2295, 2296, 230⟩, ⟨2297, 2298, 220⟩,
  ⟨2299, 2303, 230⟩, ⟨2364, 2364, 7⟩, ⟨2381, 2381, 9⟩, ⟨2385, 2385, 230⟩, ⟨2386, 2386, 220⟩,
  ⟨2387, 2388, 230⟩, ⟨2492, 2492, 7⟩, ⟨2509, 2509, 9⟩, ⟨2558, 2558, 230⟩, ⟨2620, 2620, 7⟩,
  ⟨2637, 2637, 9⟩, ⟨2748, 2748, 7⟩, ⟨2765, 2765, 9⟩, ⟨2876, 2876, 7⟩, ⟨2893, 2893, 9⟩,
  ⟨3021, 3021, 9⟩, ⟨3132, 3132, 7⟩, ⟨3149, 3149, 9⟩, ⟨3157, 3157, 84⟩, ⟨3158, 3158, 91⟩,
  ⟨3260, 3260, 7⟩, ⟨3277, 3277, 9⟩, ⟨3387, 3388, 9⟩, ⟨3405, 3405, 9⟩, ⟨3530, 3530, 9⟩,
  ⟨3640, 3641, 103⟩, ⟨3642, 3642, 9⟩, ⟨3656, 3659, 107⟩, ⟨3768, 3769, 118⟩, ⟨3770, 3770, 9⟩,
  ⟨3784, 3787, 122⟩, ⟨3864, 3865, 220⟩, ⟨3893, 3893, 220⟩, ⟨3895, 3895, 220⟩, ⟨3897, 3897, 216⟩,
  ⟨3953, 3953, 129⟩, ⟨3954, 3954, 130⟩, ⟨3956, 3956, 132⟩, ⟨3962, 3965, 130⟩, ⟨3968, 3968, 130⟩,
  ⟨3970, 3971, 230⟩, ⟨3972, 3972, 9⟩, ⟨3974, 3975, 230⟩, ⟨4038, 4038, 220⟩, ⟨4151, 4151, 7⟩,
  ⟨4153, 4154, 9⟩, ⟨4237, 4237, 220⟩, ⟨4957, 4959, 230⟩, ⟨5908, 5909, 9⟩, ⟨5940, 5940, 9⟩,
  ⟨6098, 6098, 9⟩, ⟨6109, 6109, 230⟩, ⟨6313, 6313, 228⟩, ⟨6457, 6457, 222⟩, ⟨6458, 6458, 230⟩,
  ⟨6459, 6459, 220⟩, ⟨6679, 6679, 230⟩, ⟨6680, 6680, 220⟩, ⟨6752, 6752, 9⟩, ⟨6773, 6780, 230⟩,
  ⟨6783, 6783, 220⟩, ⟨6832, 6836, 230⟩, ⟨6837, 6842, 220⟩, ⟨6843, 6844, 230⟩, ⟨6845, 6845, 220⟩,
  ⟨6847, 6848, 220⟩, ⟨6849, 6850, 230⟩, ⟨6851, 6852, 220⟩, ⟨6853, 6857, 230⟩, ⟨6858, 6858, 220⟩,
  ⟨6859, 6862, 230⟩, ⟨6964, 6964, 7⟩, ⟨6980, 6980, 9⟩, ⟨7019, 7019, 230⟩, ⟨7020, 7020, 220⟩,
  ⟨7021, 7027, 230⟩, ⟨7082, 7083, 9⟩, ⟨7142, 7142, 7⟩, ⟨7154, 7155, 9⟩, ⟨7223, 7223, 7⟩,
  ⟨7376, 7378, 230⟩, ⟨7380, 7380, 1⟩, ⟨7381, 7385, 220⟩, ⟨7386, 7387, 230⟩, ⟨7388, 7391, 220⟩,
  ⟨7392, 7392, 230⟩, ⟨7394, 7400, 1⟩, ⟨7405, 7405, 220⟩, ⟨7412, 7412, 230⟩, ⟨7416, 7417, 230⟩,
  ⟨7616, 7617, 230⟩, ⟨7618, 7618, 220⟩, ⟨7619, 7625, 230⟩, ⟨7626, 7626, 220⟩, ⟨7627, 7628, 230⟩,
  ⟨7629, 7629, 234⟩, ⟨7630, 7630, 214⟩, ⟨7631, 7631, 220⟩, ⟨7632, 7632, 202⟩, ⟨7633, 7669, 230⟩,
  ⟨7670, 7670, 232⟩, ⟨7671, 7672, 228⟩, ⟨7673, 7673, 220⟩, ⟨7674, 7674, 218⟩, ⟨7675, 7675, 230⟩,
  ⟨7676, 7676, 233⟩, ⟨7677, 7677, 220⟩, ⟨7678, 7678, 230⟩, ⟨7679, 7679, 220⟩, ⟨8400, 8401, 230⟩,
  ⟨8402, 8403, 1⟩, ⟨8404, 8407, 230⟩, ⟨8408, 8410, 1⟩, ⟨8411, 8412, 230⟩, ⟨8417, 8417, 230⟩,
  ⟨8421, 8422, 1⟩, ⟨8423, 8423, 230⟩, ⟨8424, 8424, 220⟩, ⟨8425, 8425, 230⟩, ⟨8426, 8427, 1⟩,
  ⟨8428, 8431, 220⟩, ⟨8432, 8432, 230⟩, ⟨11503, 11505, 230⟩, ⟨11647, 11647, 9⟩, ⟨11744, 11775, 230⟩,
  ⟨12330, 12330, 218⟩, ⟨12331, 12331, 228⟩, ⟨12332, 12332, 232⟩, ⟨12333, 12333, 222⟩,
  ⟨12334, 12335, 224⟩, ⟨12441, 12442, 8⟩, ⟨42607, 42607, 230⟩, ⟨42612, 42621, 230⟩,
  ⟨42654, 42655, 230⟩, ⟨42736, 42737, 230⟩, ⟨43014, 43014, 9⟩, ⟨43052, 43052, 9⟩, ⟨43204, 43204, 9⟩,
  ⟨43232, 43249, 230⟩, ⟨43307, 43309, 220⟩, ⟨43347, 43347, 9⟩, ⟨43443, 43443, 7⟩, ⟨43456, 43456, 9⟩,
  ⟨43696, 43696, 230⟩, ⟨43698, 43699, 230⟩, ⟨43700, 43700, 220⟩, ⟨43703, 43704, 230⟩,
  ⟨43710, 43711, 230⟩, ⟨43713, 43713, 230⟩, ⟨43766, 43766, 9⟩, ⟨44013, 44013, 9⟩,
  ⟨64286, 64286, 26⟩, ⟨65056, 65062, 230⟩, ⟨65063, 65069, 220⟩, ⟨65070, 65071, 230⟩,
  ⟨66045, 66045, 220⟩, ⟨66272, 66272, 220⟩, ⟨66422, 66426, 230⟩, ⟨68109, 68109, 220⟩,
  ⟨68111, 68111, 230⟩, ⟨68152, 68152, 230⟩, ⟨68153, 68153, 1⟩, ⟨68154, 68154, 220⟩,
  ⟨68159, 68159, 9⟩, ⟨68325, 68325, 230⟩, ⟨68326, 68326, 220⟩, ⟨68900, 68903, 230⟩,
  ⟨69291, 69292, 230⟩, ⟨69446, 69447, 220⟩, ⟨69448, 69450, 230⟩, ⟨69451, 69451, 220⟩,
  ⟨69452, 69452, 230⟩, ⟨69453, 69456, 220⟩, ⟨69506, 69506, 230⟩, ⟨69507, 69507, 220⟩,
  ⟨69508, 69508, 230⟩, ⟨69509, 69509, 220⟩, ⟨69702, 69702, 9⟩, ⟨69744, 69744, 9⟩, ⟨69759, 69759, 9⟩,
  ⟨69817, 69817, 9⟩, ⟨69818, 69818, 7⟩, ⟨69888, 69890, 230⟩, ⟨69939, 69940, 9⟩, ⟨70003, 70003, 7⟩,
  ⟨70080, 70080, 9⟩, ⟨70090, 70090, 7⟩, ⟨70197, 70197, 9⟩, ⟨70198, 70198, 7⟩, ⟨70377, 70377, 7⟩,
  ⟨70378, 70378, 9⟩, ⟨70459, 70460, 7⟩, ⟨70477, 70477, 9⟩, ⟨70502, 70508, 230⟩, ⟨70512, 70516, 230⟩,
  ⟨70722, 70722, 9⟩, ⟨70726, 70726, 7⟩, ⟨70750, 70750, 230⟩, ⟨70850, 70850, 9⟩, ⟨70851, 70851, 7⟩,
  ⟨71103, 71103, 9⟩, ⟨71104, 71104, 7⟩, ⟨71231, 71231, 9⟩, ⟨71350, 71350, 9⟩, ⟨71351, 71351, 7⟩,
  ⟨71467, 71467, 9⟩, ⟨71737, 71737, 9⟩, ⟨71738, 71738, 7⟩, ⟨71997, 71998, 9⟩, ⟨72003, 72003, 7⟩,
  ⟨72160, 72160, 9⟩, ⟨72244, 72244, 9⟩, ⟨72263, 72263, 9⟩, ⟨72345, 72345, 9⟩, ⟨72767, 72767, 9⟩,
  ⟨73026, 73026, 7⟩, ⟨73028, 73029, 9⟩, ⟨73111, 73111, 9⟩, ⟨92912, 92916, 1⟩, ⟨92976, 92982, 230⟩,
  ⟨94192, 94193, 6⟩, ⟨113822, 113822, 1⟩, ⟨119141, 119142, 216⟩, ⟨119143, 119145, 1⟩,
  ⟨119149, 119149, 226⟩, ⟨119150, 119154, 216⟩, ⟨119163, 119170, 220⟩, ⟨119173, 119177, 230⟩,
  ⟨119178, 119179, 220⟩, ⟨119210, 119213, 230⟩, ⟨119362, 119364, 230⟩, ⟨122880, 122886, 230⟩,
  ⟨122888, 122904, 230⟩, ⟨122907, 122913, 230⟩, ⟨122915, 122916, 230⟩, ⟨122918, 122922, 230⟩,
  ⟨123184, 123190, 230⟩, ⟨123566, 123566, 230⟩, ⟨123628, 123631, 230⟩, ⟨125136, 125142, 220⟩,
  ⟨125252, 125257, 230⟩, ⟨125258, 125258, 7⟩]

def combiningClass (c : Char) : Nat :=
  ((combiningRuns.find? fun run => run.first ≤ c.toNat && c.toNat ≤ run.last).map CombiningRun.order).getD 0

/-- What a second character makes of the characters of `firsts`: those of `composed`, in order. -/
structure CompositionRow where
  second : Nat
  firsts : String
  composed : String

def compositionRows : List CompositionRow := [
  ⟨768, "AEINOUWYaeinouwyÂÊÔÜâêôüĂăĒēŌō", "ÀÈÌǸÒÙẀỲàèìǹòùẁỳẦỀỒǛầềồǜẰằḔḕṐṑ"⟩,
  ⟨768, "ƠơƯưΑΕΗΙΟΥΩαεηιουωϊϋЕИеиἀἁἈἉἐἑ", "ỜờỪừᾺῈῊῚῸῪῺὰὲὴὶὸὺὼῒῢЀЍѐѝἂἃἊἋἒἓ"⟩,
  ⟨768, "ἘἙἠἡἨἩἰἱἸἹὀὁὈὉὐὑὙὠὡὨὩ", "ἚἛἢἣἪἫἲἳἺἻὂὃὊὋὒὓὛὢὣὪὫ"⟩,
  ⟨769, "ACEGIKLMNOPRSUWYZacegiklmnoprs", "ÁĆÉǴÍḰĹḾŃÓṔŔŚÚẂÝŹáćéǵíḱĺḿńóṕŕś"⟩,
  ⟨769, "uwyzÂÅÆÇÊÏÔÕØÜâåæçêïôõøüĂăĒēŌō", "úẃýźẤǺǼḈẾḮỐṌǾǗấǻǽḉếḯốṍǿǘẮắḖḗṒṓ"⟩,
  ⟨769, "ŨũƠơƯưΑΕΗΙΟΥΩαεηιουωϊϋϒГКгкἀἁἈ", "ṸṹỚớỨứΆΈΉΊΌΎΏάέήίόύώΐΰϓЃЌѓќἄἅἌ"⟩,
  ⟨769, "ἉἐἑἘἙἠἡἨἩἰἱἸἹὀὁὈὉὐὑὙὠὡὨὩ", "ἍἔἕἜἝἤἥἬἭἴἵἼἽὄὅὌὍὔὕὝὤὥὬὭ"⟩,
  ⟨770, "ACEGHIJOSUWYZaceghijosuwyzẠạẸẹ", "ÂĈÊĜĤÎĴÔŜÛŴŶẐâĉêĝĥîĵôŝûŵŷẑẬậỆệ"⟩, ⟨770, "Ọọ", "Ộộ"⟩,
  ⟨771, "AEINOUVYaeinouvyÂÊÔâêôĂăƠơƯư", "ÃẼĨÑÕŨṼỸãẽĩñõũṽỹẪỄỖẫễỗẴẵỠỡỮữ"⟩,
  ⟨772, "AEGIOUYaegiouyÄÆÕÖÜäæõöüǪǫȦȧȮȯ", "ĀĒḠĪŌŪȲāēḡīōūȳǞǢȬȪǕǟǣȭȫǖǬǭǠǡȰȱ"⟩,
  ⟨772, "ΑΙΥαιυИУиуḶḷṚṛ", "ᾹῙῩᾱῑῡӢӮӣӯḸḹṜṝ"⟩,
  ⟨774, "AEGIOUaegiouȨȩΑΙΥαιυАЕЖИУаежиу", "ĂĔĞĬŎŬăĕğĭŏŭḜḝᾸῘῨᾰῐῠӐӖӁЙЎӑӗӂйў"⟩, ⟨774, "Ạạ", "Ặặ"⟩,
  ⟨775, "ABCDEFGHIMNOPRSTWXYZabcdefghmn", "ȦḂĊḊĖḞĠḢİṀṄȮṖṘṠṪẆẊẎŻȧḃċḋėḟġḣṁṅ"⟩,
  ⟨775, "oprstwxyzŚśŠšſṢṣ", "ȯṗṙṡṫẇẋẏżṤṥṦṧẛṨṩ"⟩,
  ⟨776, "AEHIOUWXYaehiotuwxyÕõŪūΙΥιυϒІА", "ÄËḦÏÖÜẄẌŸäëḧïöẗüẅẍÿṎṏṺṻΪΫϊϋϔЇӒ"⟩,
  ⟨776, "ЕЖЗИОУЧЫЭаежзиоучыэіӘәӨө", "ЁӜӞӤӦӰӴӸӬӓёӝӟӥӧӱӵӹӭїӚӛӪӫ"⟩,
  ⟨777, "AEIOUYaeiouyÂÊÔâêôĂăƠơƯư", "ẢẺỈỎỦỶảẻỉỏủỷẨỂỔẩểổẲẳỞởỬử"⟩, ⟨778, "AUauwy", "ÅŮåůẘẙ"⟩,
  ⟨779, "OUouУу", "ŐŰőűӲӳ"⟩,
  ⟨780, "ACDEGHIKLNORSTUZacdeghijklnors", "ǍČĎĚǦȞǏǨĽŇǑŘŠŤǓŽǎčďěǧȟǐǰǩľňǒřš"⟩,
  ⟨780, "tuzÜüƷʒ", "ťǔžǙǚǮǯ"⟩, ⟨783, "AEIORUaeioruѴѵ", "ȀȄȈȌȐȔȁȅȉȍȑȕѶѷ"⟩,
  ⟨785, "AEIORUaeioru", "ȂȆȊȎȒȖȃȇȋȏȓȗ"⟩, ⟨787, "ΑΕΗΙΟΩαεηιορυω", "ἈἘἨἸὈὨἀἐἠἰὀῤὐὠ"⟩,
  ⟨788, "ΑΕΗΙΟΡΥΩαεηιορυω", "ἉἙἩἹὉῬὙὩἁἑἡἱὁῥὑὡ"⟩, ⟨795, "OUou", "ƠƯơư"⟩,
  ⟨803, "ABDEHIKLMNORSTUVWYZabdehiklmno", "ẠḄḌẸḤỊḲḶṂṆỌṚṢṬỤṾẈỴẒạḅḍẹḥịḳḷṃṇọ"⟩,
  ⟨803, "rstuvwyzƠơƯư", "ṛṣṭụṿẉỵẓỢợỰự"⟩, ⟨804, "Uu", "Ṳṳ"⟩, ⟨805, "Aa", "Ḁḁ"⟩,
  ⟨806, "STst", "ȘȚșț"⟩, ⟨807, "CDEGHKLNRSTcdeghklnrst", "ÇḐȨĢḨĶĻŅŖŞŢçḑȩģḩķļņŗşţ"⟩,
  ⟨808, "AEIOUaeiou", "ĄĘĮǪŲąęįǫų"⟩, ⟨813, "DELNTUdelntu", "ḒḘḼṊṰṶḓḙḽṋṱṷ"⟩, ⟨814, "Hh", "Ḫḫ"⟩,
  ⟨816, "EIUeiu", "ḚḬṴḛḭṵ"⟩, ⟨817, "BDKLNRTZbdhklnrtz", "ḆḎḴḺṈṞṮẔḇḏẖḵḻṉṟṯẕ"⟩,
  ⟨834, "αηιυωϊϋἀἁἈἉἠἡἨἩἰἱἸἹὐὑὙὠὡὨὩ", "ᾶῆῖῦῶῗῧἆἇἎἏἦἧἮἯἶἷἾἿὖὗὟὦὧὮὯ"⟩,
  ⟨837, "ΑΗΩάήαηωώἀἁἂἃἄἅἆἇἈἉἊἋἌἍἎἏἠἡἢἣἤ", "ᾼῌῼᾴῄᾳῃῳῴᾀᾁᾂᾃᾄᾅᾆᾇᾈᾉᾊᾋᾌᾍᾎᾏᾐᾑᾒᾓᾔ"⟩,
  ⟨837, "ἥἦἧἨἩἪἫἬἭἮἯὠὡὢὣὤὥὦὧὨὩὪὫὬὭὮὯὰὴὼ", "ᾕᾖᾗᾘᾙᾚᾛᾜᾝᾞᾟᾠᾡᾢᾣᾤᾥᾦᾧᾨᾩᾪᾫᾬᾭᾮᾯᾲῂῲ"⟩, ⟨837, "ᾶῆῶ", "ᾷῇῷ"⟩,
  ⟨1619, "ا", "آ"⟩, ⟨1620, "اويہےە", "أؤئۂۓۀ"⟩, ⟨1621, "ا", "إ"⟩, ⟨2364, "नरळ", "ऩऱऴ"⟩,
  ⟨2494, "ে", "ো"⟩, ⟨2519, "ে", "ৌ"⟩, ⟨2878, "େ", "ୋ"⟩, ⟨2902, "େ", "ୈ"⟩, ⟨2903, "େ", "ୌ"⟩,
  ⟨3006, "ெே", "ொோ"⟩, ⟨3031, "ஒெ", "ஔௌ"⟩, ⟨3158, "ె", "ై"⟩, ⟨3266, "ೆ", "ೊ"⟩, ⟨3285, "ಿೆೊ", "ೀೇೋ"⟩,
  ⟨3286, "ೆ", "ೈ"⟩, ⟨3390, "െേ", "ൊോ"⟩, ⟨3415, "െ", "ൌ"⟩, ⟨3530, "ෙො", "ේෝ"⟩, ⟨3535, "ෙ", "ො"⟩,
  ⟨3551, "ෙ", "ෞ"⟩, ⟨4142, "ဥ", "ဦ"⟩, ⟨6965, "ᬅᬇᬉᬋᬍᬑᬺᬼᬾᬿᭂ", "ᬆᬈᬊᬌᬎᬒᬻᬽᭀᭁᭃ"⟩,
  ⟨12441, "うかきくけこさしすせそたちつてとはひふへほゝウカキクケコサシ", "ゔがぎぐげござじずぜぞだぢづでどばびぶべぼゞヴガギグゲゴザジ"⟩,
  ⟨12441, "スセソタチツテトハヒフヘホワヰヱヲヽ", "ズゼゾダヂヅデドバビブベボヷヸヹヺヾ"⟩, ⟨12442, "はひふへほハヒフヘホ", "ぱぴぷぺぽパピプペポ"⟩,
  ⟨69818, "𑂙𑂛𑂥", "𑂚𑂜𑂫"⟩, ⟨69927, "𑄱𑄲", "𑄮𑄯"⟩, ⟨70462, "𑍇", "𑍋"⟩, ⟨70487, "𑍇", "𑍌"⟩,
  ⟨70832, "𑒹", "𑒼"⟩, ⟨70842, "𑒹", "𑒻"⟩, ⟨70845, "𑒹", "𑒾"⟩, ⟨71087, "𑖸𑖹", "𑖺𑖻"⟩, ⟨71984, "𑤵", "𑤸"⟩]

/-! ## Syllables

Syllables of the Korean alphabet are numbered by their leading, middle and trailing letter; there are 21
middle letters and 27 trailing ones, and a syllable can do without the latter. -/

def firstSyllable : Nat := 44032
def firstLeading : Nat := 4352
def firstMiddle : Nat := 4449

def noTrailing : Nat := 4519

def syllable? (n : Nat) : Option (List Char) :=
  if n < firstSyllable || firstSyllable + 19 * 21 * 28 ≤ n then none
  else
    let index := n - firstSyllable
    let trailing := noTrailing + index % 28
    some (([firstLeading + index / (21 * 28), firstMiddle + index / 28 % 21] ++
      if trailing = noTrailing then [] else [trailing]).map Char.ofNat)

/-- The syllable that two letters, or a syllable without a trailing letter and such a letter, make up. -/
def joined? (first second : Nat) : Option Char :=
  if firstLeading ≤ first && first < firstLeading + 19 && firstMiddle ≤ second && second < firstMiddle + 21 then
    some (Char.ofNat (firstSyllable + ((first - firstLeading) * 21 + (second - firstMiddle)) * 28))
  else if firstSyllable ≤ first && first < firstSyllable + 19 * 21 * 28 && (first - firstSyllable) % 28 = 0 &&
      noTrailing < second && second < noTrailing + 28 then
    some (Char.ofNat (first + (second - noTrailing)))
  else none

/-! ## Normal forms -/

def decomposition (c : Char) : List Char :=
  ((syllable? c.toNat).or (decompositionRows.findSome? (·.image? c.toNat))).getD [c]

/-- Put a character in front of ordered ones. A mark goes behind the marks of lower classes that follow. -/
def insertMark (c : Char) : List Char → List Char
  | [] => [c]
  | d :: text =>
    if 0 < combiningClass d && combiningClass d < combiningClass c then d :: insertMark c text else c :: d :: text

def composition? (first second : Char) : Option Char :=
  (joined? first.toNat second.toNat).or (compositionRows.findSome? fun row =>
    if row.second = second.toNat then (row.firsts.toList.zip row.composed.toList).lookup first else none)

/-- Compose what follows a character and the marks that it does not compose with. A mark of the same class
keeps the ones behind it from composing. -/
def composeAfter (first : Char) (marks : List Char) : List Char → List Char
  | [] => first :: marks
  | c :: text =>
    let near := marks.getLast?.all fun mark => combiningClass mark < combiningClass c
    match if near then composition? first c else none with
    | some composed => composeAfter composed marks text
    | none =>
      if combiningClass c = 0 then first :: marks ++ composeAfter c [] text
      else composeAfter first (marks ++ [c]) text

def compose : List Char → List Char
  | [] => []
  | c :: text => if combiningClass c = 0 then composeAfter c [] text else c :: compose text

def identifierName (identifier : String) : String :=
  if identifier.toList.all (·.toNat < 128) then identifier
  else String.ofList (compose ((identifier.toList.flatMap decomposition).foldr insertMark []))

end LexGen.Unicode
