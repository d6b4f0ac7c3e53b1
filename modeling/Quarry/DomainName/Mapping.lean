import Quarry.Text.Category

/-!
# What characters of domain names stand for

In a domain name, capitals stand for small letters, the letters and digits of special forms for the
common ones, and some characters for several others. A few stand for nothing at all. What stands for
another character by its very definition is not listed here, since composing text takes care of it.
Code points are those of Unicode 17.
-/

namespace Quarry.DomainName

open Quarry.Text

/-- The characters that stand for nothing. -/
def ignored : CharSet := ⟨[
    0xAD, 0xAE, 0x34F, 0x350, 0x115F, 0x1161, 0x17B4, 0x17B6, 0x180B, 0x1810, 0x200B, 0x200C,
    0x2060, 0x2065, 0x206A, 0x2070, 0x3164, 0x3165, 0xFE00, 0xFE10, 0xFEFF, 0xFF00, 0xFFA0, 0xFFA1,
    0x1BCA0, 0x1BCA4, 0x1D173, 0x1D17B, 0xE0100, 0xE01F0]⟩

/-- Characters at equal distances that stand for neighbouring characters at the same distances: the
first one, how many there are, the distance, and what the first one stands for. -/
def series : List (Nat × Nat × Nat × Nat) := [
    (0xC0, 23, 1, 0xE0), (0xD8, 7, 1, 0xF8), (0x100, 24, 2, 0x101), (0x139, 3, 2, 0x13A),
    (0x141, 4, 2, 0x142), (0x14A, 23, 2, 0x14B), (0x179, 3, 2, 0x17A), (0x1A0, 3, 2, 0x1A1),
    (0x1CD, 8, 2, 0x1CE), (0x1DE, 9, 2, 0x1DF), (0x1F8, 20, 2, 0x1F9), (0x222, 9, 2, 0x223),
    (0x246, 5, 2, 0x247), (0x388, 3, 1, 0x3AD), (0x391, 17, 1, 0x3B1), (0x3A3, 9, 1, 0x3C3),
    (0x3D8, 12, 2, 0x3D9), (0x3FD, 3, 1, 0x37B), (0x400, 16, 1, 0x450), (0x410, 32, 1, 0x430),
    (0x460, 17, 2, 0x461), (0x48A, 27, 2, 0x48B), (0x4C1, 7, 2, 0x4C2), (0x4D0, 48, 2, 0x4D1),
    (0x531, 38, 1, 0x561), (0x10A0, 38, 1, 0x2D00), (0x13F8, 6, 1, 0x13F0), (0x1C90, 43, 1, 0x10D0),
    (0x1CBD, 3, 1, 0x10FD), (0x1D31, 5, 2, 0x65), (0x1D34, 4, 2, 0x68), (0x1D5D, 3, 1, 0x3B2),
    (0x1DA4, 3, 1, 0x268), (0x1DAE, 4, 1, 0x272), (0x1DBC, 3, 1, 0x290), (0x1E00, 75, 2, 0x1E01),
    (0x1EA0, 48, 2, 0x1EA1), (0x1F08, 8, 1, 0x1F00), (0x1F18, 6, 1, 0x1F10), (0x1F28, 8, 1, 0x1F20),
    (0x1F38, 8, 1, 0x1F30), (0x1F48, 6, 1, 0x1F40), (0x1F59, 4, 2, 0x1F51), (0x1F68, 8, 1, 0x1F60),
    (0x2074, 6, 1, 0x34), (0x2080, 10, 1, 0x30), (0x2096, 4, 1, 0x6B), (0x2119, 3, 1, 0x70),
    (0x2135, 4, 1, 0x5D0), (0x2460, 9, 1, 0x31), (0x24B6, 26, 1, 0x61), (0x24D0, 26, 1, 0x61),
    (0x2C00, 48, 1, 0x2C30), (0x2C67, 3, 2, 0x2C68), (0x2C80, 50, 2, 0x2C81),
    (0x3137, 3, 1, 0x1103), (0x313A, 6, 1, 0x11B0), (0x3141, 3, 1, 0x1106), (0x3145, 10, 1, 0x1109),
    (0x314F, 21, 1, 0x1161), (0x3178, 5, 1, 0x112B), (0x3184, 3, 1, 0x1157), (0x3263, 3, 1, 0x1105),
    (0x3269, 5, 1, 0x110E), (0x32E4, 6, 1, 0x30CA), (0x32EE, 5, 1, 0x30DE), (0x32F5, 6, 1, 0x30E8),
    (0x32FB, 4, 1, 0x30EF), (0xA640, 23, 2, 0xA641), (0xA680, 14, 2, 0xA681),
    (0xA722, 7, 2, 0xA723), (0xA732, 31, 2, 0xA733), (0xA77E, 5, 2, 0xA77F),
    (0xA796, 10, 2, 0xA797), (0xA7B4, 8, 2, 0xA7B5), (0xA7CC, 8, 2, 0xA7CD),
    (0xAB70, 80, 1, 0x13A0), (0xFB24, 3, 1, 0x5DB), (0xFE41, 4, 1, 0x300C), (0xFF01, 32, 1, 0x21),
    (0xFF21, 26, 1, 0x61), (0xFF3B, 36, 1, 0x5B), (0xFF85, 6, 1, 0x30CA), (0xFF8F, 5, 1, 0x30DE),
    (0xFF96, 6, 1, 0x30E8), (0xFFA7, 3, 1, 0x1103), (0xFFAA, 6, 1, 0x11B0), (0xFFB1, 3, 1, 0x1106),
    (0xFFB5, 10, 1, 0x1109), (0xFFC2, 6, 1, 0x1161), (0xFFCA, 6, 1, 0x1167), (0xFFD2, 6, 1, 0x116D),
    (0xFFDA, 3, 1, 0x1173), (0xFFE9, 4, 1, 0x2190), (0x10400, 40, 1, 0x10428),
    (0x104B0, 36, 1, 0x104D8), (0x10570, 19, 2, 0x10597), (0x10571, 5, 2, 0x10598),
    (0x1057D, 7, 2, 0x105A4), (0x1058D, 3, 2, 0x105B4), (0x107B6, 3, 1, 0x1C0),
    (0x10C80, 51, 1, 0x10CC0), (0x10D50, 22, 1, 0x10D70), (0x118A0, 32, 1, 0x118C0),
    (0x16E40, 32, 1, 0x16E60), (0x16EA0, 25, 1, 0x16EBB), (0x1CCD6, 26, 1, 0x61),
    (0x1CCF0, 10, 1, 0x30), (0x1D400, 26, 1, 0x61), (0x1D41A, 26, 1, 0x61), (0x1D434, 26, 1, 0x61),
    (0x1D44E, 13, 2, 0x61), (0x1D44F, 3, 2, 0x62), (0x1D457, 9, 2, 0x6A), (0x1D468, 26, 1, 0x61),
    (0x1D482, 26, 1, 0x61), (0x1D4A9, 4, 1, 0x6E), (0x1D4AE, 8, 1, 0x73), (0x1D4B6, 4, 1, 0x61),
    (0x1D4BB, 11, 2, 0x66), (0x1D4BE, 3, 2, 0x69), (0x1D4C6, 5, 2, 0x71), (0x1D4D0, 26, 1, 0x61),
    (0x1D4EA, 26, 1, 0x61), (0x1D505, 3, 2, 0x62), (0x1D50D, 8, 1, 0x6A), (0x1D516, 7, 1, 0x73),
    (0x1D51E, 26, 1, 0x61), (0x1D539, 3, 2, 0x62), (0x1D53C, 6, 2, 0x65), (0x1D54A, 7, 1, 0x73),
    (0x1D552, 26, 1, 0x61), (0x1D56C, 26, 1, 0x61), (0x1D586, 26, 1, 0x61), (0x1D5A0, 26, 1, 0x61),
    (0x1D5BA, 26, 1, 0x61), (0x1D5D4, 26, 1, 0x61), (0x1D5EE, 26, 1, 0x61), (0x1D608, 26, 1, 0x61),
    (0x1D622, 26, 1, 0x61), (0x1D63C, 26, 1, 0x61), (0x1D656, 26, 1, 0x61), (0x1D670, 26, 1, 0x61),
    (0x1D68A, 26, 1, 0x61), (0x1D6A8, 17, 1, 0x3B1), (0x1D6BA, 7, 1, 0x3C3),
    (0x1D6C2, 17, 1, 0x3B1), (0x1D6D4, 7, 1, 0x3C3), (0x1D6E2, 17, 1, 0x3B1),
    (0x1D6F4, 7, 1, 0x3C3), (0x1D6FC, 17, 1, 0x3B1), (0x1D70E, 7, 1, 0x3C3),
    (0x1D71C, 17, 1, 0x3B1), (0x1D72E, 7, 1, 0x3C3), (0x1D736, 17, 1, 0x3B1),
    (0x1D748, 7, 1, 0x3C3), (0x1D756, 17, 1, 0x3B1), (0x1D768, 7, 1, 0x3C3),
    (0x1D770, 17, 1, 0x3B1), (0x1D782, 7, 1, 0x3C3), (0x1D790, 17, 1, 0x3B1),
    (0x1D7A2, 7, 1, 0x3C3), (0x1D7AA, 17, 1, 0x3B1), (0x1D7BC, 7, 1, 0x3C3), (0x1D7CE, 10, 1, 0x30),
    (0x1D7D8, 10, 1, 0x30), (0x1D7E2, 10, 1, 0x30), (0x1D7EC, 10, 1, 0x30), (0x1D7F6, 10, 1, 0x30),
    (0x1E030, 9, 1, 0x430), (0x1E039, 3, 1, 0x43A), (0x1E03C, 11, 1, 0x43E), (0x1E051, 9, 1, 0x430),
    (0x1E05F, 6, 1, 0x443), (0x1E900, 34, 1, 0x1E922), (0x1EE0A, 4, 1, 0x643),
    (0x1EE2A, 4, 1, 0x643), (0x1EE8B, 3, 1, 0x644), (0x1EEAB, 3, 1, 0x644), (0x1F130, 26, 1, 0x61),
    (0x1FBF0, 10, 1, 0x30)]

/-- Characters that stand for one other character each: the first of some neighbouring ones, and
what they stand for one after the other. -/
def letters : List (Nat × String) := [
    (0xA0, " "), (0xAA, "a"), (0xB2, "23"), (0xB5, "μ"), (0xB9, "1o"), (0x134, "ĵ"), (0x136, "ķ"),
    (0x178, "ÿ"), (0x17F, "s"), (0x181, "ɓƃ"), (0x184, "ƅ"), (0x186, "ɔƈ"), (0x189, "ɖɗƌ"),
    (0x18E, "ǝəɛƒ"), (0x193, "ɠɣ"), (0x196, "ɩɨƙ"), (0x19C, "ɯɲ"), (0x19F, "ɵ"), (0x1A6, "ʀƨ"),
    (0x1A9, "ʃ"), (0x1AC, "ƭ"), (0x1AE, "ʈư"), (0x1B1, "ʊʋƴ"), (0x1B5, "ƶ"), (0x1B7, "ʒƹ"),
    (0x1BC, "ƽ"), (0x1F4, "ǵ"), (0x1F6, "ƕƿ"), (0x220, "ƞ"), (0x23A, "ⱥȼ"), (0x23D, "ƚⱦ"),
    (0x241, "ɂ"), (0x243, "ƀʉʌ"), (0x2B0, "hɦjrɹɻʁwy"), (0x2E0, "ɣlsxʕ"), (0x345, "ι"),
    (0x370, "ͱ"), (0x372, "ͳ"), (0x376, "ͷ"), (0x37F, "ϳ"), (0x386, "ά"), (0x38C, "ό"),
    (0x38E, "ύώ"), (0x3CF, "ϗβθυύϋφπ"), (0x3F0, "κρσ"), (0x3F4, "θε"), (0x3F7, "ϸ"), (0x3F9, "σϻ"),
    (0x4C0, "ӏ"), (0xF0C, "་"), (0x10C7, "ⴧ"), (0x10CD, "ⴭ"), (0x10FC, "ნ"), (0x1C80, "вдосттъѣꙋᲊ"),
    (0x1D2C, "aæb"), (0x1D30, "d"), (0x1D32, "ǝ"), (0x1D3C, "oȣprtuwaɐɑᴂbdeəɛɜg"),
    (0x1D4F, "kmŋoɔᴖᴗptuᴝɯvᴥ"), (0x1D60, "φχiruvβγρφχ"), (0x1D78, "н"), (0x1D9B, "ɒcɕðɜfɟɡɥ"),
    (0x1DA7, "ᵻʝɭᶅʟɱɰ"), (0x1DB2, "ɸʂʃƫʉʊᴜʋʌz"), (0x1DBF, "θ"), (0x1E9B, "ṡ"), (0x1E9E, "ß"),
    (0x1FB8, "ᾰᾱὰά"), (0x1FC8, "ὲέὴή"), (0x1FD8, "ῐῑὶί"), (0x1FE8, "ῠῡὺύῥ"), (0x1FF8, "ὸόὼώ"),
    (0x2000, "           "), (0x2011, "‐"), (0x202F, " "), (0x205F, " "), (0x2070, "0i"),
    (0x207A, "+−=()n"), (0x208A, "+−=()"), (0x2090, "aeoxəh"), (0x209A, "pst"), (0x2102, "c"),
    (0x2107, "ɛ"), (0x210A, "ghhhhħiill"), (0x2115, "n"), (0x211C, "rr"), (0x2124, "z"),
    (0x2126, "ω"), (0x2128, "z"), (0x212A, "kåbc"), (0x212F, "eefⅎmo"), (0x2139, "i"),
    (0x213C, "πγγπ∑"), (0x2145, "ddeij"), (0x2160, "i"), (0x2164, "v"), (0x2169, "x"),
    (0x216C, "lcdmi"), (0x2174, "v"), (0x2179, "x"), (0x217C, "lcdm"), (0x2183, "ↄ"), (0x24EA, "0"),
    (0x2C60, "ⱡ"), (0x2C62, "ɫᵽɽ"), (0x2C6D, "ɑɱɐɒ"), (0x2C72, "ⱳ"), (0x2C75, "ⱶ"),
    (0x2C7C, "jvȿɀ"), (0x2CEB, "ⳬ"), (0x2CED, "ⳮ"), (0x2CF2, "ⳳ"), (0x2D6F, "ⵡ"), (0x2E9F, "母"),
    (0x2EF3, "龟"), (0x2F00, "一丨丶丿乙亅二亠人儿入八冂冖冫几凵刀力勹匕匚匸十卜卩厂厶又口囗土士夂夊夕大女子宀"),
    (0x2F28, "寸小尢尸屮山巛工己巾干幺广廴廾弋弓彐彡彳心戈戶手支攴文斗斤方无日曰月木欠止歹殳毋"),
    (0x2F50, "比毛氏气水火爪父爻爿片牙牛犬玄玉瓜瓦甘生用田疋疒癶白皮皿目矛矢石示禸禾穴立竹米糸"),
    (0x2F78, "缶网羊羽老而耒耳聿肉臣自至臼舌舛舟艮色艸虍虫血行衣襾見角言谷豆豕豸貝赤走足身車辛"),
    (0x2FA0, "辰辵邑酉釆里金長門阜隶隹雨靑非面革韋韭音頁風飛食首香馬骨高髟鬥鬯鬲鬼魚鳥鹵鹿麥麻"), (0x2FC8, "黃黍黑黹黽鼎鼓鼠鼻齊齒龍龜龠"), (0x3000, " "),
    (0x3002, "."), (0x3036, "〒"), (0x3038, "十卄卅"), (0x3131, "ᄀᄁᆪᄂᆬᆭ"), (0x3140, "ᄚ"), (0x3144, "ᄡ"),
    (0x3165, "ᄔᄕᇇᇈᇌᇎᇓᇗᇙᄜᇝᇟᄝᄞᄠᄢᄣᄧᄩ"), (0x317D, "ᄲᄶᅀᅇᅌᇱᇲ"), (0x3187, "ᆄᆅᆈᆑᆒᆔᆞᆡ"),
    (0x3192, "一二三四上中下甲乙丙丁天地人"), (0x3244, "問幼文箏"), (0x3260, "ᄀᄂᄃ"), (0x3266, "ᄉᄋᄌ"),
    (0x326E, "가나다라마바사아자차카타파하"), (0x327E, "우"), (0x3280, "一二三四五六七八九十月火水木金土日株有社名特財祝労秘男女適優印注項休写正上中下左"),
    (0x32A8, "右医宗学監企資協夜"), (0x32D0, "アイウエオカキクケコサシスセソタチツテト"), (0x32EA, "ヒフヘホ"), (0x32F3, "ヤユ"),
    (0xA69C, "ъь"), (0xA770, "ꝯ"), (0xA779, "ꝺ"), (0xA77B, "ꝼ"), (0xA77D, "ᵹ"), (0xA78B, "ꞌ"),
    (0xA78D, "ɥ"), (0xA790, "ꞑ"), (0xA792, "ꞓ"), (0xA7AA, "ɦɜɡɬɪ"), (0xA7B0, "ʞʇʝꭓ"),
    (0xA7C4, "ꞔʂᶎꟈ"), (0xA7C9, "ꟊ"), (0xA7CB, "ɤ"), (0xA7DC, "ƛ"), (0xA7F1, "scfqꟶ"),
    (0xA7F8, "ħœ"), (0xAB5C, "ꜧꬷɫꭒ"), (0xAB69, "ʍ"), (0xFB20, "\u05E2\u05D0\u05D3\u05D4"),
    (0xFB27, "\u05E8\u05EA+"),
    (0xFB50, "\u0671\u0671\u067B\u067B\u067B\u067B\u067E\u067E\u067E\u067E\u0680\u0680\u0680"),
    (0xFB5D, "\u0680\u067A\u067A\u067A\u067A\u067F\u067F\u067F\u067F\u0679\u0679\u0679\u0679"),
    (0xFB6A, "\u06A4\u06A4\u06A4\u06A4\u06A6\u06A6\u06A6\u06A6\u0684\u0684\u0684\u0684\u0683"),
    (0xFB77, "\u0683"),
    (0xFB78, "\u0683\u0683\u0686\u0686\u0686\u0686\u0687\u0687\u0687\u0687\u068D\u068D\u068C"),
    (0xFB85, "\u068C\u068E\u068E\u0688\u0688\u0698\u0698\u0691\u0691\u06A9\u06A9\u06A9\u06A9"),
    (0xFB92, "\u06AF\u06AF\u06AF\u06AF\u06B3\u06B3\u06B3\u06B3\u06B1\u06B1\u06B1\u06B1\u06BA"),
    (0xFB9F, "\u06BA"),
    (0xFBA0, "\u06BB\u06BB\u06BB\u06BB\u06C0\u06C0\u06C1\u06C1\u06C1\u06C1\u06BE\u06BE\u06BE"),
    (0xFBAD, "\u06BE\u06D2\u06D2\u06D3\u06D3"),
    (0xFBD3, "\u06AD\u06AD\u06AD\u06AD\u06C7\u06C7\u06C6\u06C6\u06C8\u06C8"),
    (0xFBDE, "\u06CB\u06CB\u06C5\u06C5\u06C9\u06C9\u06D0\u06D0\u06D0\u06D0\u0649\u0649"),
    (0xFBFC, "\u06CC\u06CC\u06CC\u06CC"), (0xFE10, ",、"), (0xFE13, ":;!?〖〗"),
    (0xFE31, "—–__()\x7b\x7d〔〕【】《》〈〉"), (0xFE47, "[]"), (0xFE4D, "___,、"),
    (0xFE54, ";:?!—()\x7b\x7d〔〕#&*+-<>="), (0xFE68, "\\$%@"),
    (0xFE80, "\u0621\u0622\u0622\u0623\u0623\u0624\u0624\u0625\u0625\u0626\u0626\u0626\u0626"),
    (0xFE8D, "\u0627\u0627\u0628\u0628\u0628\u0628\u0629\u0629\u062A\u062A\u062A\u062A\u062B"),
    (0xFE9A, "\u062B\u062B\u062B\u062C\u062C\u062C\u062C\u062D\u062D\u062D\u062D\u062E\u062E"),
    (0xFEA7, "\u062E"),
    (0xFEA8, "\u062E\u062F\u062F\u0630\u0630\u0631\u0631\u0632\u0632\u0633\u0633\u0633\u0633"),
    (0xFEB5, "\u0634\u0634\u0634\u0634\u0635\u0635\u0635\u0635\u0636\u0636\u0636\u0636\u0637"),
    (0xFEC2, "\u0637\u0637\u0637\u0638\u0638\u0638\u0638\u0639\u0639\u0639\u0639\u063A\u063A"),
    (0xFECF, "\u063A"),
    (0xFED0, "\u063A\u0641\u0641\u0641\u0641\u0642\u0642\u0642\u0642\u0643\u0643\u0643\u0643"),
    (0xFEDD, "\u0644\u0644\u0644\u0644\u0645\u0645\u0645\u0645\u0646\u0646\u0646\u0646\u0647"),
    (0xFEEA, "\u0647\u0647\u0647\u0648\u0648\u0649\u0649\u064A\u064A\u064A\u064A"),
    (0xFF5F, "⦅⦆.「」、・ヲァィゥェォャュョッーアイウエオカキクケコサシスセソタチツテト"), (0xFF8B, "ヒフヘホ"), (0xFF94, "ヤユ"),
    (0xFF9C, "ワン\u3099\u309A"), (0xFFA1, "ᄀᄁᆪᄂᆬᆭ"), (0xFFB0, "ᄚ"), (0xFFB4, "ᄡ"), (0xFFE0, "¢£¬"),
    (0xFFE4, "¦¥₩"), (0xFFE8, "│"), (0xFFED, "■○"), (0x10595, "𐖼"), (0x10781, "ːˑæʙɓ"),
    (0x10787, "ʣꭦʥʤɖɗᶑɘɞʩɤɢɠʛħʜɧʄʪʫɬ𝼄ꞎɮ𝼅ʎ𝼆øɶɷqɺ𝼈ɽɾʀʨʦꭧʧ"), (0x107AF, "ʈⱱ"), (0x107B2, "ʏʡʢʘ"),
    (0x107B9, "𝼊𝼞"), (0x1D49C, "a"), (0x1D49E, "cd"), (0x1D4A2, "g"), (0x1D4A5, "jk"),
    (0x1D504, "a"), (0x1D508, "e"), (0x1D50A, "g"), (0x1D538, "a"), (0x1D541, "j"), (0x1D543, "l"),
    (0x1D6A4, "ıȷ"), (0x1D6B9, "θ"), (0x1D6C1, "∇"), (0x1D6D3, "σ"), (0x1D6DB, "∂εθκφρπ"),
    (0x1D6F3, "θ"), (0x1D6FB, "∇"), (0x1D70D, "σ"), (0x1D715, "∂εθκφρπ"), (0x1D72D, "θ"),
    (0x1D735, "∇"), (0x1D747, "σ"), (0x1D74F, "∂εθκφρπ"), (0x1D767, "θ"), (0x1D76F, "∇"),
    (0x1D781, "σ"), (0x1D789, "∂εθκφρπ"), (0x1D7A1, "θ"), (0x1D7A9, "∇"), (0x1D7BB, "σ"),
    (0x1D7C3, "∂εθκφρπϝϝ"), (0x1E047, "ыэюꚉәіјөүӏ"), (0x1E05A, "клопс"), (0x1E065, "ъыґіѕџҫꙑұ"),
    (0x1EE00, "\u0627\u0628\u062C\u062F"), (0x1EE05, "\u0648\u0632\u062D\u0637\u064A"),
    (0x1EE0E, "\u0633\u0639\u0641\u0635\u0642\u0631\u0634\u062A\u062B\u062E\u0630\u0636\u0638"),
    (0x1EE1B, "\u063A\u066E\u06BA\u06A1\u066F"), (0x1EE21, "\u0628\u062C"), (0x1EE24, "\u0647"),
    (0x1EE27, "\u062D"), (0x1EE29, "\u064A"), (0x1EE2E, "\u0633\u0639\u0641\u0635\u0642"),
    (0x1EE34, "\u0634\u062A\u062B\u062E"), (0x1EE39, "\u0636"), (0x1EE3B, "\u063A"),
    (0x1EE42, "\u062C"), (0x1EE47, "\u062D"), (0x1EE49, "\u064A"), (0x1EE4B, "\u0644"),
    (0x1EE4D, "\u0646\u0633\u0639"), (0x1EE51, "\u0635\u0642"), (0x1EE54, "\u0634"),
    (0x1EE57, "\u062E"), (0x1EE59, "\u0636"), (0x1EE5B, "\u063A"), (0x1EE5D, "\u06BA"),
    (0x1EE5F, "\u066F"), (0x1EE61, "\u0628\u062C"), (0x1EE64, "\u0647"),
    (0x1EE67, "\u062D\u0637\u064A\u0643"), (0x1EE6C, "\u0645\u0646\u0633\u0639\u0641\u0635\u0642"),
    (0x1EE74, "\u0634\u062A\u062B\u062E"), (0x1EE79, "\u0636\u0638\u063A\u066E"),
    (0x1EE7E, "\u06A1"), (0x1EE80, "\u0627\u0628\u062C\u062F\u0647\u0648\u0632\u062D\u0637\u064A"),
    (0x1EE8E, "\u0633\u0639\u0641\u0635\u0642\u0631\u0634\u062A\u062B\u062E\u0630\u0636\u0638"),
    (0x1EE9B, "\u063A"), (0x1EEA1, "\u0628\u062C\u062F"),
    (0x1EEA5, "\u0648\u0632\u062D\u0637\u064A"),
    (0x1EEAE, "\u0633\u0639\u0641\u0635\u0642\u0631\u0634\u062A\u062B\u062E\u0630\u0636\u0638"),
    (0x1EEBB, "\u063A"), (0x1F12B, "cr"), (0x1F202, "サ"),
    (0x1F210, "手字双デ二多解天交映無料前後再新初終生販声吹演投捕一三遊左中右指走打禁空合満有月"), (0x1F238, "申割営配"), (0x1F250, "得可")]

/-- Characters that stand for several others each: the first of some neighbouring ones, and what
they stand for one after the other, with tildes between. -/
def words : List (Nat × String) := [
    (0xA8, " \u0308"), (0xAF, " \u0304"), (0xB4, " \u0301"), (0xB8, " \u0327"),
    (0xBC, "1⁄4~1⁄2~3⁄4"), (0x130, "i\u0307"), (0x132, "ij~ij"), (0x13F, "l·~l·"), (0x149, "ʼn"),
    (0x1C4, "dž~dž~dž~lj~lj~lj~nj~nj~nj"), (0x1F1, "dz~dz~dz"),
    (0x2D8, " \u0306~ \u0307~ \u030A~ \u0328~ \u0303~ \u030B"), (0x37A, " ι"),
    (0x384, " \u0301~ \u0308\u0301"), (0x587, "եւ"),
    (0x675, "\u0627\u0674~\u0648\u0674~\u06C7\u0674~\u064A\u0674"), (0xE33, "\u0E4Dา"),
    (0xEB3, "\u0ECDາ"), (0xEDC, "ຫນ~ຫມ"), (0xF77, "\u0FB2\u0F71\u0F80"),
    (0xF79, "\u0FB3\u0F71\u0F80"), (0x1E9A, "aʾ"),
    (0x1F80, "ἀι~ἁι~ἂι~ἃι~ἄι~ἅι~ἆι~ἇι~ἀι~ἁι~ἂι~ἃι~ἄι~ἅι"),
    (0x1F8E, "ἆι~ἇι~ἠι~ἡι~ἢι~ἣι~ἤι~ἥι~ἦι~ἧι~ἠι~ἡι~ἢι~ἣι"),
    (0x1F9C, "ἤι~ἥι~ἦι~ἧι~ὠι~ὡι~ὢι~ὣι~ὤι~ὥι~ὦι~ὧι~ὠι~ὡι"), (0x1FAA, "ὢι~ὣι~ὤι~ὥι~ὦι~ὧι"),
    (0x1FB2, "ὰι~αι~άι"), (0x1FB7, "ᾶι"), (0x1FBC, "αι~ \u0313"),
    (0x1FBF, " \u0313~ \u0342~ \u0308\u0342~ὴι~ηι~ήι"), (0x1FC7, "ῆι"),
    (0x1FCC, "ηι~ \u0313\u0300~ \u0313\u0301~ \u0313\u0342"),
    (0x1FDD, " \u0314\u0300~ \u0314\u0301~ \u0314\u0342"), (0x1FED, " \u0308\u0300~ \u0308\u0301"),
    (0x1FF2, "ὼι~ωι~ώι"), (0x1FF7, "ῶι"), (0x1FFC, "ωι~ \u0301~ \u0314"), (0x2017, " \u0333"),
    (0x2033, "′′~′′′"), (0x2036, "‵‵~‵‵‵"), (0x203C, "!!"), (0x203E, " \u0305"),
    (0x2047, "??~?!~!?"), (0x2057, "′′′′"), (0x20A8, "rs"), (0x2100, "a/c~a/s"), (0x2103, "°c"),
    (0x2105, "c/o~c/u"), (0x2109, "°f"), (0x2116, "no"), (0x2120, "sm~tel~tm"), (0x213B, "fax"),
    (0x2150, "1⁄7~1⁄9~1⁄10~1⁄3~2⁄3~1⁄5~2⁄5~3⁄5~4⁄5~1⁄6"), (0x215A, "5⁄6~1⁄8~3⁄8~5⁄8~7⁄8~1⁄"),
    (0x2161, "ii~iii~iv"), (0x2165, "vi~vii~viii~ix"), (0x216A, "xi~xii"), (0x2171, "ii~iii~iv"),
    (0x2175, "vi~vii~viii~ix"), (0x217A, "xi~xii"), (0x2189, "0⁄3"), (0x222C, "∫∫~∫∫∫"),
    (0x222F, "∮∮~∮∮∮"), (0x2469, "10~11~12~13~14~15~16~17~18~19~20~(1)~(2)"),
    (0x2476, "(3)~(4)~(5)~(6)~(7)~(8)~(9)~(10)~(11)~(12)"),
    (0x2480, "(13)~(14)~(15)~(16)~(17)~(18)~(19)~(20)"),
    (0x249C, "(a)~(b)~(c)~(d)~(e)~(f)~(g)~(h)~(i)~(j)~(k)"),
    (0x24A7, "(l)~(m)~(n)~(o)~(p)~(q)~(r)~(s)~(t)~(u)~(v)"), (0x24B2, "(w)~(x)~(y)~(z)"),
    (0x2A0C, "∫∫∫∫"), (0x2A74, "::=~==~==="), (0x309B, " \u3099~ \u309A"), (0x309F, "より"),
    (0x30FF, "コト"), (0x3200, "(ᄀ)~(ᄂ)~(ᄃ)~(ᄅ)~(ᄆ)~(ᄇ)~(ᄉ)~(ᄋ)~(ᄌ)~(ᄎ)~(ᄏ)"),
    (0x320B, "(ᄐ)~(ᄑ)~(ᄒ)~(가)~(나)~(다)~(라)~(마)~(바)~(사)~(아)"),
    (0x3216, "(자)~(차)~(카)~(타)~(파)~(하)~(주)~(오전)~(오후)"),
    (0x3220, "(一)~(二)~(三)~(四)~(五)~(六)~(七)~(八)~(九)~(十)~(月)"),
    (0x322B, "(火)~(水)~(木)~(金)~(土)~(日)~(株)~(有)~(社)~(名)~(特)"),
    (0x3236, "(財)~(祝)~(労)~(代)~(呼)~(学)~(監)~(企)~(資)~(協)~(祭)"), (0x3241, "(休)~(自)~(至)"),
    (0x3250, "pte~21~22~23~24~25~26~27~28~29~30~31~32~33"), (0x325E, "34~35"), (0x327C, "참고~주의"),
    (0x32B1, "36~37~38~39~40~41~42~43~44~45~46~47~48~49"),
    (0x32BF, "50~1月~2月~3月~4月~5月~6月~7月~8月~9月~10月~11月~12月"), (0x32CC, "hg~erg~ev~ltd"),
    (0x32FF, "令和~アパート~アルファ~アンペア~アール~イニング~インチ~ウォン~エスクード"),
    (0x3308, "エーカー~オンス~オーム~カイリ~カラット~カロリー~ガロン~ガンマ~ギガ~ギニー"),
    (0x3312, "キュリー~ギルダー~キロ~キログラム~キロメートル~キロワット~グラム~グラムトン"),
    (0x331A, "クルゼイロ~クローネ~ケース~コルナ~コーポ~サイクル~サンチーム~シリング~センチ"),
    (0x3323, "セント~ダース~デシ~ドル~トン~ナノ~ノット~ハイツ~パーセント~パーツ~バーレル"),
    (0x332E, "ピアストル~ピクル~ピコ~ビル~ファラッド~フィート~ブッシェル~フラン~ヘクタール"),
    (0x3337, "ペソ~ペニヒ~ヘルツ~ペンス~ページ~ベータ~ポイント~ボルト~ホン~ポンド~ホール"),
    (0x3342, "ホーン~マイクロ~マイル~マッハ~マルク~マンション~ミクロン~ミリ~ミリバール~メガ"),
    (0x334C, "メガトン~メートル~ヤード~ヤール~ユアン~リットル~リラ~ルピー~ルーブル~レム"),
    (0x3356, "レントゲン~ワット~0点~1点~2点~3点~4点~5点~6点~7点~8点~9点~10点"),
    (0x3363, "11点~12点~13点~14点~15点~16点~17点~18点~19点~20点~21点"),
    (0x336E, "22点~23点~24点~hpa~da~au~bar~ov~pc~dm~dm2~dm3"),
    (0x337A, "iu~平成~昭和~大正~明治~株式会社~pa~na~μa~ma~ka~kb~mb~gb"),
    (0x3388, "cal~kcal~pf~nf~μf~μg~mg~kg~hz~khz~mhz~ghz"),
    (0x3394, "thz~μl~ml~dl~kl~fm~nm~μm~mm~cm~km~mm2~cm2"),
    (0x33A1, "m2~km2~mm3~cm3~m3~km3~m∕s~m∕s2~pa~kpa~mpa"),
    (0x33AC, "gpa~rad~rad∕s~rad∕s2~ps~ns~μs~ms~pv~nv~μv"),
    (0x33B7, "mv~kv~mv~pw~nw~μw~mw~kw~mw~kω~mω"), (0x33C3, "bq~cc~cd~c∕kg"),
    (0x33C8, "db~gy~ha~hp~in~kk~km~kt~lm~ln~log~lx~mb~mil"), (0x33D6, "mol~ph"),
    (0x33D9, "ppm~pr~sr~sv~wb~v∕m~a∕m~1日~2日~3日~4日~5日~6日"),
    (0x33E6, "7日~8日~9日~10日~11日~12日~13日~14日~15日~16日~17日"),
    (0x33F1, "18日~19日~20日~21日~22日~23日~24日~25日~26日~27日~28日"), (0x33FC, "29日~30日~31日~gal"),
    (0xFB00, "ff~fi~fl~ffi~ffl~st~st"), (0xFB13, "մն~մե~մի~վն~մխ"), (0xFB4F, "\u05D0\u05DC"),
    (0xFBDD, "\u06C7\u0674"),
    (0xFBEA, "\u0626\u0627~\u0626\u0627~\u0626\u06D5~\u0626\u06D5~\u0626\u0648"),
    (0xFBEF, "\u0626\u0648~\u0626\u06C7~\u0626\u06C7~\u0626\u06C6~\u0626\u06C6"),
    (0xFBF4, "\u0626\u06C8~\u0626\u06C8~\u0626\u06D0~\u0626\u06D0"),
    (0xFBF8, "\u0626\u06D0~\u0626\u0649~\u0626\u0649~\u0626\u0649"),
    (0xFC00, "\u0626\u062C~\u0626\u062D~\u0626\u0645~\u0626\u0649~\u0626\u064A"),
    (0xFC05, "\u0628\u062C~\u0628\u062D~\u0628\u062E~\u0628\u0645~\u0628\u0649"),
    (0xFC0A, "\u0628\u064A~\u062A\u062C~\u062A\u062D~\u062A\u062E"),
    (0xFC0E, "\u062A\u0645~\u062A\u0649~\u062A\u064A~\u062B\u062C~\u062B\u0645"),
    (0xFC13, "\u062B\u0649~\u062B\u064A~\u062C\u062D~\u062C\u0645~\u062D\u062C"),
    (0xFC18, "\u062D\u0645~\u062E\u062C~\u062E\u062D~\u062E\u0645"),
    (0xFC1C, "\u0633\u062C~\u0633\u062D~\u0633\u062E~\u0633\u0645~\u0635\u062D"),
    (0xFC21, "\u0635\u0645~\u0636\u062C~\u0636\u062D~\u0636\u062E~\u0636\u0645"),
    (0xFC26, "\u0637\u062D~\u0637\u0645~\u0638\u0645~\u0639\u062C"),
    (0xFC2A, "\u0639\u0645~\u063A\u062C~\u063A\u0645~\u0641\u062C~\u0641\u062D"),
    (0xFC2F, "\u0641\u062E~\u0641\u0645~\u0641\u0649~\u0641\u064A~\u0642\u062D"),
    (0xFC34, "\u0642\u0645~\u0642\u0649~\u0642\u064A~\u0643\u0627"),
    (0xFC38, "\u0643\u062C~\u0643\u062D~\u0643\u062E~\u0643\u0644~\u0643\u0645"),
    (0xFC3D, "\u0643\u0649~\u0643\u064A~\u0644\u062C~\u0644\u062D~\u0644\u062E"),
    (0xFC42, "\u0644\u0645~\u0644\u0649~\u0644\u064A~\u0645\u062C"),
    (0xFC46, "\u0645\u062D~\u0645\u062E~\u0645\u0645~\u0645\u0649~\u0645\u064A"),
    (0xFC4B, "\u0646\u062C~\u0646\u062D~\u0646\u062E~\u0646\u0645~\u0646\u0649"),
    (0xFC50, "\u0646\u064A~\u0647\u062C~\u0647\u0645~\u0647\u0649"),
    (0xFC54, "\u0647\u064A~\u064A\u062C~\u064A\u062D~\u064A\u062E~\u064A\u0645"),
    (0xFC59, "\u064A\u0649~\u064A\u064A~\u0630\u0670~\u0631\u0670~\u0649\u0670"),
    (0xFC5E, " \u064C\u0651~ \u064D\u0651~ \u064E\u0651"),
    (0xFC61, " \u064F\u0651~ \u0650\u0651~ \u0651\u0670~\u0626\u0631~\u0626\u0632"),
    (0xFC66, "\u0626\u0645~\u0626\u0646~\u0626\u0649~\u0626\u064A~\u0628\u0631"),
    (0xFC6B, "\u0628\u0632~\u0628\u0645~\u0628\u0646"),
    (0xFC6E, "\u0628\u0649~\u0628\u064A~\u062A\u0631~\u062A\u0632~\u062A\u0645"),
    (0xFC73, "\u062A\u0646~\u062A\u0649~\u062A\u064A~\u062B\u0631~\u062B\u0632"),
    (0xFC78, "\u062B\u0645~\u062B\u0646~\u062B\u0649~\u062B\u064A"),
    (0xFC7C, "\u0641\u0649~\u0641\u064A~\u0642\u0649~\u0642\u064A~\u0643\u0627"),
    (0xFC81, "\u0643\u0644~\u0643\u0645~\u0643\u0649~\u0643\u064A~\u0644\u0645"),
    (0xFC86, "\u0644\u0649~\u0644\u064A~\u0645\u0627~\u0645\u0645"),
    (0xFC8A, "\u0646\u0631~\u0646\u0632~\u0646\u0645~\u0646\u0646~\u0646\u0649"),
    (0xFC8F, "\u0646\u064A~\u0649\u0670~\u064A\u0631~\u064A\u0632~\u064A\u0645"),
    (0xFC94, "\u064A\u0646~\u064A\u0649~\u064A\u064A~\u0626\u062C"),
    (0xFC98, "\u0626\u062D~\u0626\u062E~\u0626\u0645~\u0626\u0647~\u0628\u062C"),
    (0xFC9D, "\u0628\u062D~\u0628\u062E~\u0628\u0645~\u0628\u0647~\u062A\u062C"),
    (0xFCA2, "\u062A\u062D~\u062A\u062E~\u062A\u0645~\u062A\u0647"),
    (0xFCA6, "\u062B\u0645~\u062C\u062D~\u062C\u0645~\u062D\u062C~\u062D\u0645"),
    (0xFCAB, "\u062E\u062C~\u062E\u0645~\u0633\u062C~\u0633\u062D~\u0633\u062E"),
    (0xFCB0, "\u0633\u0645~\u0635\u062D~\u0635\u062E~\u0635\u0645"),
    (0xFCB4, "\u0636\u062C~\u0636\u062D~\u0636\u062E~\u0636\u0645~\u0637\u062D"),
    (0xFCB9, "\u0638\u0645~\u0639\u062C~\u0639\u0645~\u063A\u062C~\u063A\u0645"),
    (0xFCBE, "\u0641\u062C~\u0641\u062D~\u0641\u062E~\u0641\u0645"),
    (0xFCC2, "\u0642\u062D~\u0642\u0645~\u0643\u062C~\u0643\u062D~\u0643\u062E"),
    (0xFCC7, "\u0643\u0644~\u0643\u0645~\u0644\u062C~\u0644\u062D~\u0644\u062E"),
    (0xFCCC, "\u0644\u0645~\u0644\u0647~\u0645\u062C~\u0645\u062D"),
    (0xFCD0, "\u0645\u062E~\u0645\u0645~\u0646\u062C~\u0646\u062D~\u0646\u062E"),
    (0xFCD5, "\u0646\u0645~\u0646\u0647~\u0647\u062C~\u0647\u0645~\u0647\u0670"),
    (0xFCDA, "\u064A\u062C~\u064A\u062D~\u064A\u062E~\u064A\u0645"),
    (0xFCDE, "\u064A\u0647~\u0626\u0645~\u0626\u0647~\u0628\u0645~\u0628\u0647"),
    (0xFCE3, "\u062A\u0645~\u062A\u0647~\u062B\u0645~\u062B\u0647~\u0633\u0645"),
    (0xFCE8, "\u0633\u0647~\u0634\u0645~\u0634\u0647~\u0643\u0644"),
    (0xFCEC, "\u0643\u0645~\u0644\u0645~\u0646\u0645~\u0646\u0647~\u064A\u0645"),
    (0xFCF1, "\u064A\u0647~\u0640\u064E\u0651~\u0640\u064F\u0651~\u0640\u0650\u0651"),
    (0xFCF5, "\u0637\u0649~\u0637\u064A~\u0639\u0649~\u0639\u064A"),
    (0xFCF9, "\u063A\u0649~\u063A\u064A~\u0633\u0649~\u0633\u064A~\u0634\u0649"),
    (0xFCFE, "\u0634\u064A~\u062D\u0649~\u062D\u064A~\u062C\u0649~\u062C\u064A"),
    (0xFD03, "\u062E\u0649~\u062E\u064A~\u0635\u0649~\u0635\u064A"),
    (0xFD07, "\u0636\u0649~\u0636\u064A~\u0634\u062C~\u0634\u062D~\u0634\u062E"),
    (0xFD0C, "\u0634\u0645~\u0634\u0631~\u0633\u0631~\u0635\u0631~\u0636\u0631"),
    (0xFD11, "\u0637\u0649~\u0637\u064A~\u0639\u0649~\u0639\u064A"),
    (0xFD15, "\u063A\u0649~\u063A\u064A~\u0633\u0649~\u0633\u064A~\u0634\u0649"),
    (0xFD1A, "\u0634\u064A~\u062D\u0649~\u062D\u064A~\u062C\u0649~\u062C\u064A"),
    (0xFD1F, "\u062E\u0649~\u062E\u064A~\u0635\u0649~\u0635\u064A"),
    (0xFD23, "\u0636\u0649~\u0636\u064A~\u0634\u062C~\u0634\u062D~\u0634\u062E"),
    (0xFD28, "\u0634\u0645~\u0634\u0631~\u0633\u0631~\u0635\u0631~\u0636\u0631"),
    (0xFD2D, "\u0634\u062C~\u0634\u062D~\u0634\u062E~\u0634\u0645"),
    (0xFD31, "\u0633\u0647~\u0634\u0647~\u0637\u0645~\u0633\u062C~\u0633\u062D"),
    (0xFD36, "\u0633\u062E~\u0634\u062C~\u0634\u062D~\u0634\u062E~\u0637\u0645"),
    (0xFD3B, "\u0638\u0645~\u0627\u064B~\u0627\u064B"),
    (0xFD50, "\u062A\u062C\u0645~\u062A\u062D\u062C~\u062A\u062D\u062C~\u062A\u062D\u0645"),
    (0xFD54, "\u062A\u062E\u0645~\u062A\u0645\u062C~\u062A\u0645\u062D~\u062A\u0645\u062E"),
    (0xFD58, "\u062C\u0645\u062D~\u062C\u0645\u062D~\u062D\u0645\u064A"),
    (0xFD5B, "\u062D\u0645\u0649~\u0633\u062D\u062C~\u0633\u062C\u062D~\u0633\u062C\u0649"),
    (0xFD5F, "\u0633\u0645\u062D~\u0633\u0645\u062D~\u0633\u0645\u062C~\u0633\u0645\u0645"),
    (0xFD63, "\u0633\u0645\u0645~\u0635\u062D\u062D~\u0635\u062D\u062D"),
    (0xFD66, "\u0635\u0645\u0645~\u0634\u062D\u0645~\u0634\u062D\u0645~\u0634\u062C\u064A"),
    (0xFD6A, "\u0634\u0645\u062E~\u0634\u0645\u062E~\u0634\u0645\u0645~\u0634\u0645\u0645"),
    (0xFD6E, "\u0636\u062D\u0649~\u0636\u062E\u0645~\u0636\u062E\u0645"),
    (0xFD71, "\u0637\u0645\u062D~\u0637\u0645\u062D~\u0637\u0645\u0645~\u0637\u0645\u064A"),
    (0xFD75, "\u0639\u062C\u0645~\u0639\u0645\u0645~\u0639\u0645\u0645~\u0639\u0645\u0649"),
    (0xFD79, "\u063A\u0645\u0645~\u063A\u0645\u064A~\u063A\u0645\u0649"),
    (0xFD7C, "\u0641\u062E\u0645~\u0641\u062E\u0645~\u0642\u0645\u062D~\u0642\u0645\u0645"),
    (0xFD80, "\u0644\u062D\u0645~\u0644\u062D\u064A~\u0644\u062D\u0649~\u0644\u062C\u062C"),
    (0xFD84, "\u0644\u062C\u062C~\u0644\u062E\u0645~\u0644\u062E\u0645"),
    (0xFD87, "\u0644\u0645\u062D~\u0644\u0645\u062D~\u0645\u062D\u062C~\u0645\u062D\u0645"),
    (0xFD8B, "\u0645\u062D\u064A~\u0645\u062C\u062D~\u0645\u062C\u0645~\u0645\u062E\u062C"),
    (0xFD8F, "\u0645\u062E\u0645"),
    (0xFD92, "\u0645\u062C\u062E~\u0647\u0645\u062C~\u0647\u0645\u0645~\u0646\u062D\u0645"),
    (0xFD96, "\u0646\u062D\u0649~\u0646\u062C\u0645~\u0646\u062C\u0645~\u0646\u062C\u0649"),
    (0xFD9A, "\u0646\u0645\u064A~\u0646\u0645\u0649~\u064A\u0645\u0645"),
    (0xFD9D, "\u064A\u0645\u0645~\u0628\u062E\u064A~\u062A\u062C\u064A~\u062A\u062C\u0649"),
    (0xFDA1, "\u062A\u062E\u064A~\u062A\u062E\u0649~\u062A\u0645\u064A~\u062A\u0645\u0649"),
    (0xFDA5, "\u062C\u0645\u064A~\u062C\u062D\u0649~\u062C\u0645\u0649"),
    (0xFDA8, "\u0633\u062E\u0649~\u0635\u062D\u064A~\u0634\u062D\u064A~\u0636\u062D\u064A"),
    (0xFDAC, "\u0644\u062C\u064A~\u0644\u0645\u064A~\u064A\u062D\u064A~\u064A\u062C\u064A"),
    (0xFDB0, "\u064A\u0645\u064A~\u0645\u0645\u064A~\u0642\u0645\u064A"),
    (0xFDB3, "\u0646\u062D\u064A~\u0642\u0645\u062D~\u0644\u062D\u0645~\u0639\u0645\u064A"),
    (0xFDB7, "\u0643\u0645\u064A~\u0646\u062C\u062D~\u0645\u062E\u064A~\u0644\u062C\u0645"),
    (0xFDBB, "\u0643\u0645\u0645~\u0644\u062C\u0645~\u0646\u062C\u062D"),
    (0xFDBE, "\u062C\u062D\u064A~\u062D\u062C\u064A~\u0645\u062C\u064A~\u0641\u0645\u064A"),
    (0xFDC2, "\u0628\u062D\u064A~\u0643\u0645\u0645~\u0639\u062C\u0645~\u0635\u0645\u0645"),
    (0xFDC6, "\u0633\u062E\u064A~\u0646\u062C\u064A"),
    (0xFDF0, "\u0635\u0644\u06D2~\u0642\u0644\u06D2~\u0627\u0644\u0644\u0647"),
    (0xFDF3, "\u0627\u0643\u0628\u0631~\u0645\u062D\u0645\u062F~\u0635\u0644\u0639\u0645"),
    (0xFDF6, "\u0631\u0633\u0648\u0644~\u0639\u0644\u064A\u0647~\u0648\u0633\u0644\u0645"),
    (0xFDF9, "\u0635\u0644\u0649"),
    (0xFDFA, "\u0635\u0644\u0649 \u0627\u0644\u0644\u0647 \u0639\u0644\u064A\u0647 \u0648\u0633\u0644\u0645"),
    (0xFDFB, "\u062C\u0644 \u062C\u0644\u0627\u0644\u0647~\u0631\u06CC\u0627\u0644"),
    (0xFE49, " \u0305~ \u0305~ \u0305~ \u0305"), (0xFE70, " \u064B~\u0640\u064B~ \u064C"),
    (0xFE74, " \u064D"),
    (0xFE76, " \u064E~\u0640\u064E~ \u064F~\u0640\u064F~ \u0650~\u0640\u0650~ \u0651"),
    (0xFE7D, "\u0640\u0651~ \u0652~\u0640\u0652"),
    (0xFEF5, "\u0644\u0622~\u0644\u0622~\u0644\u0623~\u0644\u0623~\u0644\u0625"),
    (0xFEFA, "\u0644\u0625~\u0644\u0627~\u0644\u0627"), (0xFFE3, " \u0304"),
    (0x1F101, "0,~1,~2,~3,~4,~5,~6,~7,~8,~9,"),
    (0x1F110, "(a)~(b)~(c)~(d)~(e)~(f)~(g)~(h)~(i)~(j)~(k)"),
    (0x1F11B, "(l)~(m)~(n)~(o)~(p)~(q)~(r)~(s)~(t)~(u)~(v)"), (0x1F126, "(w)~(x)~(y)~(z)~〔s〕"),
    (0x1F12D, "cd~wz"), (0x1F14A, "hv~mv~sd~ss~ppv~wc"), (0x1F16A, "mc~md~mr"), (0x1F190, "dj"),
    (0x1F200, "ほか~ココ"), (0x1F240, "〔本〕~〔三〕~〔二〕~〔安〕~〔点〕~〔打〕~〔盗〕~〔勝〕~〔敗〕")]

end Quarry.DomainName
