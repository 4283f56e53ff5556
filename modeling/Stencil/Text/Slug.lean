import Stencil.Text.Basic

/-!
# Slugs

A slug spells a text with small ASCII letters, digits and single hyphens between words.  Characters
beyond ASCII have plain spellings: letters with marks, Greek and Cyrillic letters, and signs.
-/

namespace Stencil.Text

/-! ## Latin spellings -/

/-- Spellings of consecutive characters, with the first code point of each row.  Spaces separate the
spellings, and an underscore stands for a space in one. -/
def romanRows : List (Nat × String) := [
  (0xA0, "_ ! C/ PS $? Y= | SS \" (c) a << !  (r) - deg +- 2 3 ' u P * , 1 o >> 1/4 1/2 3/4 ? A"),
  (0xC1, "A A A A A AE C E E E E I I I I D N O O O O O x O U U U U Y Th ss a a a a a a ae c e e"),
  (0xEA, "e e i i i i d n o o o o o / o u u u u y th y A a A a A a C c C c C c C c D d D d E e"),
  (0x114, "E e E e E e E e G g G g G g G g H h H h I i I i I i I i I i IJ ij J j K k k L l L l"),
  (0x13D, "L l L l L l N n N n N n 'n ng NG O o O o O o OE oe R r R r R r S s S s S s S s T t T"),
  (0x165, "t T t U u U u U u U u U u U u W w Y y Y Z z Z z Z z s b B B b"),
  (0x186, "O C c D D D d"),
  (0x18E, "E @ E F f G G hv I I K k l l W N n O O o OI oi P p YR 2 2 SH sh t T t T U u Y V Y y"),
  (0x1B5, "Z z ZH ZH zh zh 2 5 5 ts w | || |= ! DZ Dz dz LJ Lj lj NJ Nj nj A a I i O o U u U u"),
  (0x1D7, "U u U u U u @ A a A a AE ae G g G g K k O o O o ZH zh j DZ Dz dz G g HV W N n A a AE"),
  (0x1FD, "ae O o A a A a E e E e I i I i O o O o R r R r U u U u S s T t Y y H h N d OU ou Z z"),
  (0x226, "A a E e O o O o O o O o Y y l n t j db qp A C c L T s z"),
  (0x243, "B U ^ E e J j q q R r Y y a a a b o c d d e @ @ e e e e j g g g g u Y h h i i I l l"),
  (0x26D, "l lZ W W m n n n o OE O F r r r r r r r R R s S j S S t t u U v ^ w y Y z z Z Z ? ?"),
  (0x296, "? C @ B E G H j k L q ? ? dz dZ dz ts tS tC fN ls lz WW ]] h h"),
  (0x386, "A ; E E I"),
  (0x38C, "O"),
  (0x38E, "U O I A B G D E Z E Th I K L M N X O P R"),
  (0x3A3, "S T U Ph Kh Ps O I U a e e i u a b g d e z e th i k l m n x o p r s s t u ph kh ps o"),
  (0x3CA, "i u o u o"),
  (0x3D0, "b th U U U ph p &"),
  (0x400, "Ie Io Dj Gj Ie Dz I Yi J Lj Nj Tsh Kj I U Dzh A B V G D E Zh Z I I K L M N O P R S T"),
  (0x423, "U F Kh Ts Ch Sh Shch ' Y ' E Iu Ia a b v g d e zh z i i k l m n o p r s t u f kh ts"),
  (0x447, "ch sh shch ' y ' e iu ia ie io dj gj ie dz i yi j lj nj tsh kj i u dzh"),
  (0x490, "G' g' G' g' G' g' Zh' zh' Z' z' K' k' K' k' K' k' K' k' N' n' Ng ng P' p' Kh kh S'"),
  (0x4AB, "s' T' t' U u U' u' Kh' kh' Tts tts Ch' ch' Ch' ch' H h Ch ch Ch' ch'"),
  (0x4C1, "Zh zh"),
  (0x4D0, "A a A a"),
  (0x4D6, "E e"),
  (0x4DC, "Zh zh Z z"),
  (0x4E2, "I i I i O o"),
  (0x4EC, "E e U u U u U u Ch ch"),
  (0x4F8, "Y y"),
  (0x1D2C, "A"),
  (0x1D2E, "B"),
  (0x1D30, "D E"),
  (0x1D33, "G H I J K L M N"),
  (0x1D3C, "O"),
  (0x1D3E, "P R T U W a"),
  (0x1D47, "b d e"),
  (0x1D4D, "g"),
  (0x1D4F, "k m"),
  (0x1D52, "o"),
  (0x1D56, "p t u"),
  (0x1D5B, "v"),
  (0x1D62, "i r u v"),
  (0x1D9C, "c"),
  (0x1DA0, "f"),
  (0x1DBB, "z"),
  (0x1E00, "A a B b B b B b C c D d D d D d D d D d E e E e E e E e E e F f G g H h H h H h H h"),
  (0x1E2A, "H h I i I i K k K k K k L l L l L l L l M m M m M m N n N n N n N n O o O o O o O o"),
  (0x1E54, "P p P p R r R r R r R r S s S s S s S s S s T t T t T t T t U u U u U u U u U u V v"),
  (0x1E7E, "V v W w W w W w W w W w X x X x Y y Z z Z z Z z h t w y a S s s Ss d A a A a A a A"),
  (0x1EA7, "a A a A a A a A a A a A a A a A a E e E e E e E e E e E e E e E e I i I i O o O o O"),
  (0x1ED1, "o O o O o O o O o O o O o O o O o O o U u U u U u U u U u U u U u Y y Y y Y y Y y"),
  (0x1EFA, "LL ll V v Y y a a a a a a a a A A A A A A A A e e e e e e"),
  (0x1F18, "E E E E E E"),
  (0x1F20, "e e e e e e e e E E E E E E E E i i i i i i i i I I I I I I I I o o o o o o"),
  (0x1F48, "O O O O O O"),
  (0x1F50, "u u u u u u u u"),
  (0x1F59, "U"),
  (0x1F5B, "U"),
  (0x1F5D, "U"),
  (0x1F5F, "U o o o o o o o o O O O O O O O O a a e e e e i i o o u u o o"),
  (0x1F80, "a a a a a a a a A A A A A A A A e e e e e e e e E E E E E E E E o o o o o o o o O O"),
  (0x1FAA, "O O O O O O a a a a a"),
  (0x1FB6, "a a A A A A A"),
  (0x1FBE, "i"),
  (0x1FC1, "\" e e e"),
  (0x1FC6, "e e E E E E E"),
  (0x1FD0, "i i i i"),
  (0x1FD6, "i i I I I I"),
  (0x1FE0, "u u u u r r u u U U U U R \" \""),
  (0x1FF2, "o o o"),
  (0x1FF6, "o o O O O O O '"),
  (0x2000, "_ _ _ _ _ _ _ _ _ _ _      - - - - -- -- || _ ' ' , ' \" \" ,, \" + ++ * *> . .."),
  (0x2026, "... . _ __      _ %0 %00 ' '' ''' ` `` ``` ^ < > * !! !?"),
  (0x2044, "/"),
  (0x2070, "0 i"),
  (0x2074, "4 5 6 7 8 9 +"),
  (0x207C, "= ( ) n 0 1 2 3 4 5 6 7 8 9 +"),
  (0x208C, "= ( )"),
  (0x2090, "a e o x"),
  (0x2095, "h k l m n p s t"),
  (0x20A0, "ECU CL Cr FF L mil N Pts Rs W NS D EUR K T Dr"),
  (0x2100, "a/c a/s C"),
  (0x2105, "c/o c/u"),
  (0x210A, "g H H H h"),
  (0x2110, "I I L l"),
  (0x2115, "N No"),
  (0x2119, "P Q R R R"),
  (0x2120, "SM TEL tm"),
  (0x2124, "Z"),
  (0x2126, "O"),
  (0x2128, "Z"),
  (0x212A, "K A B C"),
  (0x212F, "e E F"),
  (0x2133, "M o"),
  (0x2139, "i"),
  (0x213B, "FAX"),
  (0x2145, "D d e i j"),
  (0x2160, "I II III IV V VI VII VIII IX X XI XII L C D M i ii iii iv v vi vii viii ix x xi xii"),
  (0x217C, "l c d m"),
  (0x2212, "-"),
  (0x2460, "1 2 3 4 5 6 7 8 9 10 11 12 13 14 15 16 17 18 19 20 (1) (2) (3) (4) (5) (6) (7) (8)"),
  (0x247C, "(9) (10) (11) (12) (13) (14) (15) (16) (17) (18) (19) (20) 1. 2. 3. 4. 5. 6. 7. 8."),
  (0x2490, "9. 10. 11. 12. 13. 14. 15. 16. 17. 18. 19. 20. (a) (b) (c) (d) (e) (f) (g) (h) (i)"),
  (0x24A5, "(j) (k) (l) (m) (n) (o) (p) (q) (r) (s) (t) (u) (v) (w) (x) (y) (z) A B C D E F G H"),
  (0x24BE, "I J K L M N O P Q R S T U V W X Y Z a b c d e f g h i j k l m n o p q r s t u v w x"),
  (0x24E8, "y z 0"),
  (0x2C7C, "j V"),
  (0x3000, "_"),
  (0xFB00, "ff fi fl ffi ffl st st"),
  (0xFF01, "! \" # $ % & ' ( ) * + , - . / 0 1 2 3 4 5 6 7 8 9 : ; < = > ? @ A B C D E F G H I"),
  (0xFF2A, "J K L M N O P Q R S T U V W X Y Z [ \\ ] ^ _ ` a b c d e f g h i j k l m n o p q r"),
  (0xFF53, "s t u v w x y z \x7b | \x7d ~"),
  (0x1F600, "grinning")]

/-- Whether a character is a mark on the letter before it. -/
def isCombining (c : Char) : Bool := '\u0300' ≤ c && c ≤ '\u036F'

/-- The plain spelling of a character, if one is known.  ASCII characters spell themselves,
and marks on letters are left out. -/
def romanize? (c : Char) : Option (List Char) :=
  if c.toNat < 0x80 then some [c]
  else if isCombining c then some []
  else
    match romanRows.reverse.find? fun row => row.1 ≤ c.toNat with
    | none => none
    | some (first, spellings) =>
      (splitOn ' ' spellings.toList)[c.toNat - first]?.map fun s =>
        s.map fun d => if d = '_' then ' ' else d

/-! ## Slugs -/

/-- The letter or digit of a slug that a character becomes, if it becomes one. -/
def slugChar? (c : Char) : Option Char :=
  if isAsciiLetter c || isAsciiDigit c then some c.toLower else none

/-- The words of a slug: runs of ASCII letters and digits, in small letters. -/
def slugWords (s : List Char) : List (List Char) :=
  ((splitBy (fun c => (slugChar? c).isNone) s).filter (!·.isEmpty)).map (List.filterMap slugChar?)

/-- The slug of a text.  Characters without a plain spelling separate words. -/
def slugify (s : List Char) : List Char :=
  join ['-'] (slugWords (s.flatMap fun c => (romanize? c).getD ['-']))

end Stencil.Text
