/-
Texts in composed form.

A mark and the character before it may be one character as well. In the composed form of a text
marks of different classes are in the order of their classes, and whatever can be one character
is one. Characters that are never composed, although they are made of others, are left as they are.

* **`Composition.compose`** brings a text into this form.
-/
import ClassOrigin.Text.CombiningClass

namespace ClassOrigin.Composition

/-! ### Pairs -/

/-- What the marks make of the characters before them: a mark, the characters it combines with,
and the characters that they are then, in the same order. -/
def pairs : List (Nat × String × String) :=
  [(0x300, "AEINOUWYaeinouwy¨ÂÊÔÜâêôüĂăĒēŌōƠơƯưΑΕΗΙΟΥΩαεηιουωϊϋЕИеиἀἁἈἉἐἑἘἙἠἡἨἩἰἱἸἹὀὁὈὉὐὑὙὠὡὨὩ᾿῾",
      "ÀÈÌǸÒÙẀỲàèìǹòùẁỳ῭ẦỀỒǛầềồǜẰằḔḕṐṑỜờỪừᾺῈῊῚῸῪῺὰὲὴὶὸὺὼῒῢЀЍѐѝἂἃἊἋἒἓἚἛἢἣἪἫἲἳἺἻὂὃὊὋὒὓὛὢὣὪὫ῍῝"),
   (0x301, "ACEGIKLMNOPRSUWYZacegiklmnoprsuwyz¨ÂÅÆÇÊÏÔÕØÜâåæçêïôõøüĂăĒēŌōŨũƠơƯưΑΕΗΙΟΥΩαεηιουωϊϋϒ" ++
        "ГКгкἀἁἈἉἐἑἘἙἠἡἨἩἰἱἸἹὀὁὈὉὐὑὙὠὡὨὩ᾿῾",
      "ÁĆÉǴÍḰĹḾŃÓṔŔŚÚẂÝŹáćéǵíḱĺḿńóṕŕśúẃýź΅ẤǺǼḈẾḮỐṌǾǗấǻǽḉếḯốṍǿǘẮắḖḗṒṓṸṹỚớỨứΆΈΉΊΌΎΏάέήίόύώΐΰϓ" ++
        "ЃЌѓќἄἅἌἍἔἕἜἝἤἥἬἭἴἵἼἽὄὅὌὍὔὕὝὤὥὬὭ῎῞"),
   (0x302, "ACEGHIJOSUWYZaceghijosuwyzẠạẸẹỌọ", "ÂĈÊĜĤÎĴÔŜÛŴŶẐâĉêĝĥîĵôŝûŵŷẑẬậỆệỘộ"),
   (0x303, "AEINOUVYaeinouvyÂÊÔâêôĂăƠơƯư", "ÃẼĨÑÕŨṼỸãẽĩñõũṽỹẪỄỖẫễỗẴẵỠỡỮữ"),
   (0x304, "AEGIOUYaegiouyÄÆÕÖÜäæõöüǪǫȦȧȮȯΑΙΥαιυИУиуḶḷṚṛ",
      "ĀĒḠĪŌŪȲāēḡīōūȳǞǢȬȪǕǟǣȭȫǖǬǭǠǡȰȱᾹῙῩᾱῑῡӢӮӣӯḸḹṜṝ"),
   (0x306, "AEGIOUaegiouȨȩΑΙΥαιυАЕЖИУаежиуẠạ", "ĂĔĞĬŎŬăĕğĭŏŭḜḝᾸῘῨᾰῐῠӐӖӁЙЎӑӗӂйўẶặ"),
   (0x307, "ABCDEFGHIMNOPRSTWXYZabcdefghmnoprstwxyzŚśŠšſṢṣ𐗒𐗚",
      "ȦḂĊḊĖḞĠḢİṀṄȮṖṘṠṪẆẊẎŻȧḃċḋėḟġḣṁṅȯṗṙṡṫẇẋẏżṤṥṦṧẛṨṩ𐗉𐗤"),
   (0x308, "AEHIOUWXYaehiotuwxyÕõŪūΙΥιυϒІАЕЖЗИОУЧЫЭаежзиоучыэіӘәӨө",
      "ÄËḦÏÖÜẄẌŸäëḧïöẗüẅẍÿṎṏṺṻΪΫϊϋϔЇӒЁӜӞӤӦӰӴӸӬӓёӝӟӥӧӱӵӹӭїӚӛӪӫ"),
   (0x309, "AEIOUYaeiouyÂÊÔâêôĂăƠơƯư", "ẢẺỈỎỦỶảẻỉỏủỷẨỂỔẩểổẲẳỞởỬử"),
   (0x30A, "AUauwy", "ÅŮåůẘẙ"),
   (0x30B, "OUouУу", "ŐŰőűӲӳ"),
   (0x30C, "ACDEGHIKLNORSTUZacdeghijklnorstuzÜüƷʒ", "ǍČĎĚǦȞǏǨĽŇǑŘŠŤǓŽǎčďěǧȟǐǰǩľňǒřšťǔžǙǚǮǯ"),
   (0x30F, "AEIORUaeioruѴѵ", "ȀȄȈȌȐȔȁȅȉȍȑȕѶѷ"),
   (0x311, "AEIORUaeioru", "ȂȆȊȎȒȖȃȇȋȏȓȗ"),
   (0x313, "ΑΕΗΙΟΩαεηιορυω", "ἈἘἨἸὈὨἀἐἠἰὀῤὐὠ"),
   (0x314, "ΑΕΗΙΟΡΥΩαεηιορυω", "ἉἙἩἹὉῬὙὩἁἑἡἱὁῥὑὡ"),
   (0x31B, "OUou", "ƠƯơư"),
   (0x323, "ABDEHIKLMNORSTUVWYZabdehiklmnorstuvwyzƠơƯư",
      "ẠḄḌẸḤỊḲḶṂṆỌṚṢṬỤṾẈỴẒạḅḍẹḥịḳḷṃṇọṛṣṭụṿẉỵẓỢợỰự"),
   (0x324, "Uu", "Ṳṳ"),
   (0x325, "Aa", "Ḁḁ"),
   (0x326, "STst", "ȘȚșț"),
   (0x327, "CDEGHKLNRSTcdeghklnrst", "ÇḐȨĢḨĶĻŅŖŞŢçḑȩģḩķļņŗşţ"),
   (0x328, "AEIOUaeiou", "ĄĘĮǪŲąęįǫų"),
   (0x32D, "DELNTUdelntu", "ḒḘḼṊṰṶḓḙḽṋṱṷ"),
   (0x32E, "Hh", "Ḫḫ"),
   (0x330, "EIUeiu", "ḚḬṴḛḭṵ"),
   (0x331, "BDKLNRTZbdhklnrtz", "ḆḎḴḺṈṞṮẔḇḏẖḵḻṉṟṯẕ"),
   (0x338, "<=>←→↔⇐⇒⇔∃∈∋∣∥∼≃≅≈≍≡≤≥≲≳≶≷≺≻≼≽⊂⊃⊆⊇⊑⊒⊢⊨⊩⊫⊲⊳⊴⊵",
      "≮≠≯↚↛↮⇍⇏⇎∄∉∌∤∦≁≄≇≉≭≢≰≱≴≵≸≹⊀⊁⋠⋡⊄⊅⊈⊉⋢⋣⊬⊭⊮⊯⋪⋫⋬⋭"),
   (0x342, "¨αηιυωϊϋἀἁἈἉἠἡἨἩἰἱἸἹὐὑὙὠὡὨὩ᾿῾", "῁ᾶῆῖῦῶῗῧἆἇἎἏἦἧἮἯἶἷἾἿὖὗὟὦὧὮὯ῏῟"),
   (0x345, "ΑΗΩάήαηωώἀἁἂἃἄἅἆἇἈἉἊἋἌἍἎἏἠἡἢἣἤἥἦἧἨἩἪἫἬἭἮἯὠὡὢὣὤὥὦὧὨὩὪὫὬὭὮὯὰὴὼᾶῆῶ",
      "ᾼῌῼᾴῄᾳῃῳῴᾀᾁᾂᾃᾄᾅᾆᾇᾈᾉᾊᾋᾌᾍᾎᾏᾐᾑᾒᾓᾔᾕᾖᾗᾘᾙᾚᾛᾜᾝᾞᾟᾠᾡᾢᾣᾤᾥᾦᾧᾨᾩᾪᾫᾬᾭᾮᾯᾲῂῲᾷῇῷ"),
   (0x653, "ا", "آ"),
   (0x654, "اويہےە", "أؤئۂۓۀ"),
   (0x655, "ا", "إ"),
   (0x93C, "नरळ", "ऩऱऴ"),
   (0x9BE, "ে", "ো"),
   (0x9D7, "ে", "ৌ"),
   (0xB3E, "େ", "ୋ"),
   (0xB56, "େ", "ୈ"),
   (0xB57, "େ", "ୌ"),
   (0xBBE, "ெே", "ொோ"),
   (0xBD7, "ஒெ", "ஔௌ"),
   (0xC56, "ె", "ై"),
   (0xCC2, "ೆ", "ೊ"),
   (0xCD5, "ಿೆೊ", "ೀೇೋ"),
   (0xCD6, "ೆ", "ೈ"),
   (0xD3E, "െേ", "ൊോ"),
   (0xD57, "െ", "ൌ"),
   (0xDCA, "ෙො", "ේෝ"),
   (0xDCF, "ෙ", "ො"),
   (0xDDF, "ෙ", "ෞ"),
   (0x102E, "ဥ", "ဦ"),
   (0x1B35, "ᬅᬇᬉᬋᬍᬑᬺᬼᬾᬿᭂ", "ᬆᬈᬊᬌᬎᬒᬻᬽᭀᭁᭃ"),
   (0x3099, "うかきくけこさしすせそたちつてとはひふへほゝウカキクケコサシスセソタチツテトハヒフヘホワヰヱヲヽ",
      "ゔがぎぐげござじずぜぞだぢづでどばびぶべぼゞヴガギグゲゴザジズゼゾダヂヅデドバビブベボヷヸヹヺヾ"),
   (0x309A, "はひふへほハヒフヘホ", "ぱぴぷぺぽパピプペポ"),
   (0x110BA, "𑂙𑂛𑂥", "𑂚𑂜𑂫"),
   (0x11127, "𑄱𑄲", "𑄮𑄯"),
   (0x1133E, "𑍇", "𑍋"),
   (0x11357, "𑍇", "𑍌"),
   (0x113B8, "𑏂", "𑏇"),
   (0x113BB, "𑎄", "𑎅"),
   (0x113C2, "𑎎", "𑎎𑏅"),
   (0x113C9, "𑎂𑎐𑏂", "𑎃𑎑𑏈"),
   (0x114B0, "𑒹", "𑒼"),
   (0x114BA, "𑒹", "𑒻"),
   (0x114BD, "𑒹", "𑒾"),
   (0x115AF, "𑖸𑖹", "𑖺𑖻"),
   (0x11930, "𑤵", "𑤸"),
   (0x1611E, "𖄞", "𖄡"),
   (0x1611F, "𖄡𖄡𖄩𖄩", "𖄣𖄦𖄧𖄤"),
   (0x16120, "𖄡𖄞", "𖄥𖄨"),
   (0x16129, "𖄞", "𖄢"),
   (0x16D67, "𖵩𖵩", "𖵪𖵧𖵪")]

/-! ### Syllables -/

/-- The number of leading consonants of syllables. -/
def leadCount : Nat := 19

/-- The number of vowels of syllables. -/
def vowelCount : Nat := 21

/-- The number of closing consonants of syllables, none included. -/
def tailCount : Nat := 28

/-- A number below `count` that a code point has from `base` on. -/
def index? (base count : Nat) (c : Char) : Option Nat :=
  if base ≤ c.toNat ∧ c.toNat < base + count then some (c.toNat - base) else none

/-- The position of a syllable among all syllables. -/
def syllable? (c : Char) : Option Nat :=
  index? 0xAC00 (leadCount * vowelCount * tailCount) c

/-- The syllable at a position. -/
def syllable (position : Nat) : Char :=
  Char.ofNat (0xAC00 + position)

/-- The syllable that a consonant and a vowel, or an open syllable and a consonant, make. -/
def joined? (a b : Char) : Option Char :=
  match index? 0x1100 leadCount a, index? 0x1161 vowelCount b with
  | some lead, some vowel => some (syllable ((lead * vowelCount + vowel) * tailCount))
  | _, _ =>
    match syllable? a, index? 0x11A7 tailCount b with
    | some position, some (tail + 1) =>
      if position % tailCount = 0 then some (syllable (position + tail + 1)) else none
    | _, _ => none

/-- The letters of a syllable. -/
def letters? (c : Char) : Option (List Char) :=
  (syllable? c).map fun position =>
    let front := position / tailCount
    let lead := Char.ofNat (0x1100 + front / vowelCount)
    let vowel := Char.ofNat (0x1161 + front % vowelCount)
    let tail := position % tailCount
    if tail = 0 then [lead, vowel] else [lead, vowel, Char.ofNat (0x11A7 + tail)]

/-! ### Composing -/

/-- The character that a character and the mark behind it make. -/
def composite? (base mark : Char) : Option Char :=
  match joined? base mark with
  | some c => some c
  | none =>
    match pairs.lookup mark.toNat with
    | some (bases, results) => (bases.toList.zip results.toList).lookup base
    | none => none

/-- The character and the mark that a character is made of. -/
def parts? (c : Char) : Option (Char × Char) :=
  pairs.findSome? fun (mark, bases, results) =>
    ((results.toList.zip bases.toList).lookup c).map fun base => (base, Char.ofNat mark)

/-- Takes marks off a character, at most `fuel` of them. -/
def decomposeChar : Nat → Char → List Char
  | 0, c => [c]
  | fuel + 1, c =>
    match parts? c with
    | some (base, mark) => decomposeChar fuel base ++ [mark]
    | none => [c]

/-- The characters that a character is made of. None has more than three marks. -/
def decompose (c : Char) : List Char :=
  (letters? c).getD (decomposeChar 3 c)

/-- Puts a character in front of a text whose marks are in order, behind marks that go first. -/
def place (c : Char) : List Char → List Char
  | [] => [c]
  | d :: rest =>
    let there := CombiningClass.ofChar d
    if there ≠ 0 ∧ there < CombiningClass.ofChar c then d :: place c rest else c :: d :: rest

/-- Composes what follows `base`. `kept` holds the marks since then in reverse, which did not
combine with it. -/
def composeOnto (base : Char) (kept : List Char) : List Char → List Char
  | [] => base :: kept.reverse
  | c :: rest =>
    let here := CombiningClass.ofChar c
    let blocked := kept.head?.any fun mark => here ≤ CombiningClass.ofChar mark
    match if blocked then none else composite? base c with
    | some whole => composeOnto whole kept rest
    | none =>
      if here = 0 then base :: kept.reverse ++ composeOnto c [] rest
      else composeOnto base (c :: kept) rest

/-- Composes a text that is taken apart and whose marks are in order. -/
def composeOrdered : List Char → List Char
  | [] => []
  | c :: rest =>
    if CombiningClass.ofChar c = 0 then composeOnto c [] rest else c :: composeOrdered rest

/-- A text in composed form. -/
def compose (text : List Char) : List Char :=
  composeOrdered ((text.flatMap decompose).foldr place [])

end ClassOrigin.Composition
