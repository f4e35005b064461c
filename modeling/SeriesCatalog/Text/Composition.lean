/-! # Characters that are composed of others

A letter and a mark after it may be one character. A text is composed if it has that character
wherever there is one.
-/

namespace SeriesCatalog.Text

/-- The marks that are part of composed characters, each with the small letters and the signs that
it composes with. -/
def composingMarks : Array (Nat × String) :=
  #[(0x300, "aeinouwyâêôüăēōơưαεηιουωϊϋеиἀἁἐἑἠἡἰἱὀὁὐὑὠὡ"),
    (0x301, "acegiklmnoprsuwyzâåæçêïôõøüăēōũơưαεηιουωϊϋгкἀἁἐἑἠἡἰἱὀὁὐὑὠὡ"),
    (0x302, "aceghijosuwyzạẹọ"), (0x303, "aeinouvyâêôăơư"), (0x304, "aegiouyäæõöüǫȧȯαιυиуḷṛ"),
    (0x306, "aegiouȩαιυаежиуạ"), (0x307, "abcdefghmnoprstwxyzśšṣ"),
    (0x308, "aehiotuwxyõūιυаежзиоучыэіәө"), (0x309, "aeiouyâêôăơư"), (0x30A, "auwy"),
    (0x30B, "ouу"), (0x30C, "acdeghijklnorstuzüʒ"), (0x30F, "aeioruѵ"), (0x311, "aeioru"),
    (0x313, "αεηιορυω"), (0x314, "αεηιορυω"), (0x31B, "ou"), (0x323, "abdehiklmnorstuvwyzơư"),
    (0x324, "u"), (0x325, "a"), (0x326, "st"), (0x327, "cdeghklnrst"), (0x328, "aeiou"),
    (0x32D, "delntu"), (0x32E, "h"), (0x330, "eiu"), (0x331, "bdhklnrtz"),
    (0x338, "=←→↔⇐⇒⇔∃∈∋∣∥∼≃≅≈≍≡≤≥≲≳≶≷≺≻≼≽⊂⊃⊆⊇⊑⊒⊢⊨⊩⊫⊲⊳⊴⊵"), (0x342, "αηιυωϊϋἀἁἠἡἰἱὐὑὠὡ"),
    (0x653, "ا"), (0x654, "اويہےە"), (0x655, "ا"), (0x93C, "\u0928\u0930\u0933"), (0x9BE, "\u09c7"),
    (0x9D7, "\u09c7"), (0xB3E, "\u0b47"), (0xB56, "\u0b47"), (0xB57, "\u0b47"),
    (0xBBE, "\u0bc6\u0bc7"), (0xBD7, "\u0b92\u0bc6"), (0xC56, "\u0c46"), (0xCC2, "\u0cc6"),
    (0xCD5, "\u0cbf\u0cc6\u0cca"), (0xCD6, "\u0cc6"), (0xD3E, "\u0d46\u0d47"), (0xD57, "\u0d46"),
    (0xDCA, "\u0dd9\u0ddc"), (0xDCF, "\u0dd9"), (0xDDF, "\u0dd9"), (0x102E, "\u1025"),
    (0x1B35, "\u1b05\u1b07\u1b09\u1b0b\u1b0d\u1b11\u1b3a\u1b3c\u1b3e\u1b3f\u1b42"),
    (0x3099, "うかきくけこさしすせそたちつてとはひふへほゝウカキクケコサシスセソタチツテトハヒフヘホワヰヱヲヽ"), (0x309A, "はひふへほハヒフヘホ"),
    (0x110BA, "𑂙𑂛𑂥"), (0x11127, "𑄱𑄲"), (0x1133E, "𑍇"), (0x11357, "𑍇"), (0x114B0, "𑒹"),
    (0x114BA, "𑒹"), (0x114BD, "𑒹"), (0x115AF, "𑖸𑖹"), (0x11930, "𑤵")]

/-- Two characters that are one when they are composed: a letter and a mark, or the parts of a
Korean syllable. -/
def compose (c d : Char) : Bool :=
  let isBetween (n first last : Nat) : Bool := first ≤ n && n ≤ last
  let isLeading := isBetween c.toNat 0x1100 0x1112
  let isOpen := isBetween c.toNat 0xAC00 0xD7A3 && (c.toNat - 0xAC00) % 28 == 0
  (isLeading && isBetween d.toNat 0x1161 0x1175) || (isOpen && isBetween d.toNat 0x11A8 0x11C2) ||
    composingMarks.any fun (mark, bases) => mark == d.toNat && bases.toList.contains c

def isComposed : List Char → Bool
  | c :: d :: rest => !compose c d && isComposed (d :: rest)
  | _ => true

end SeriesCatalog.Text
