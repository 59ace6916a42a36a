/-
**Character sets and collations.**

A database of the second engine is told in which character set its client speaks and how texts are
ordered.  An order belongs to one set and its name begins with the name of the set.

Main definitions:

* `JumpHost.isCharacterSet`, `JumpHost.isCollation` — the names that there are.
-/

set_option autoImplicit false

namespace JumpHost

/-- The sets with orders of their own, and the ends of the names of these. -/
def ownCollations : List (String × List String) :=
  [("armscii8", ["bin", "general_ci"]),
   ("ascii", ["bin", "general_ci"]),
   ("big5", ["bin", "chinese_ci"]),
   ("cp1250", ["bin", "croatian_ci", "czech_cs", "general_ci", "polish_ci"]),
   ("cp1251", ["bin", "bulgarian_ci", "general_ci", "general_cs", "ukrainian_ci"]),
   ("cp1256", ["bin", "general_ci"]),
   ("cp1257", ["bin", "general_ci", "lithuanian_ci"]),
   ("cp850", ["bin", "general_ci"]),
   ("cp852", ["bin", "general_ci"]),
   ("cp866", ["bin", "general_ci"]),
   ("cp932", ["bin", "japanese_ci"]),
   ("dec8", ["bin", "swedish_ci"]),
   ("eucjpms", ["bin", "japanese_ci"]),
   ("euckr", ["bin", "korean_ci"]),
   ("gb18030", ["bin", "chinese_ci", "unicode_520_ci"]),
   ("gb2312", ["bin", "chinese_ci"]),
   ("gbk", ["bin", "chinese_ci"]),
   ("geostd8", ["bin", "general_ci"]),
   ("greek", ["bin", "general_ci"]),
   ("hebrew", ["bin", "general_ci"]),
   ("hp8", ["bin", "english_ci"]),
   ("keybcs2", ["bin", "general_ci"]),
   ("koi8r", ["bin", "general_ci"]),
   ("koi8u", ["bin", "general_ci"]),
   ("latin1",
     ["bin", "danish_ci", "general_ci", "general_cs", "german1_ci", "german2_ci", "spanish_ci",
      "swedish_ci"]),
   ("latin2", ["bin", "croatian_ci", "czech_cs", "general_ci", "hungarian_ci"]),
   ("latin5", ["bin", "turkish_ci"]),
   ("latin7", ["bin", "estonian_cs", "general_ci", "general_cs"]),
   ("macce", ["bin", "general_ci"]),
   ("macroman", ["bin", "general_ci"]),
   ("sjis", ["bin", "japanese_ci"]),
   ("swe7", ["bin", "swedish_ci"]),
   ("tis620", ["bin", "thai_ci"]),
   ("ujis", ["bin", "japanese_ci"]),
   ("utf16le", ["bin", "general_ci"])]

/-- The sets that hold every character of every language. -/
def wideSets : List String := ["ucs2", "utf16", "utf32", "utf8", "utf8mb4"]

/-- The ends of the names of the orders that all of these sets have. -/
def wideCollations : List String :=
  ["bin", "croatian_ci", "czech_ci", "danish_ci", "esperanto_ci", "estonian_ci", "general_ci",
   "german2_ci", "hungarian_ci", "icelandic_ci", "latvian_ci", "lithuanian_ci", "persian_ci",
   "polish_ci", "roman_ci", "romanian_ci", "sinhala_ci", "slovak_ci", "slovenian_ci",
   "spanish2_ci", "spanish_ci", "swedish_ci", "turkish_ci", "unicode_520_ci", "unicode_ci",
   "vietnamese_ci"]

/-- The names of the orders that only one of these sets has. -/
def furtherCollations : List String :=
  ["binary", "ucs2_general_mysql500_ci", "utf8_general_mysql500_ci", "utf8_tolower_ci",
   "utf8mb4_0900_ai_ci"]

/-- The names of character sets. -/
def isCharacterSet (name : String) : Bool :=
  name == "binary" || (ownCollations.map Prod.fst).contains name || wideSets.contains name

/-- The names of collations. -/
def isCollation (name : String) : Bool :=
  furtherCollations.contains name ||
    ownCollations.any (fun (set, ends) => ends.any fun e => name == set ++ "_" ++ e) ||
    wideSets.any fun set => wideCollations.any fun e => name == set ++ "_" ++ e

end JumpHost
