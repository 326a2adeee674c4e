import RuleGate.Unicode.Property
import RuleGate.Unicode.Script

/-!
The Unicode properties by which a text is cut into clusters, words and sentences. Each property has
named values, and a character has at most one of them. The lists leave out the value of all other
characters.
-/

namespace RuleGate.Unicode

/-- The characters of a script, given by its long name; empty if there is none of that name. -/
def script (name : String) : CharSet :=
  ((scripts.find? fun e => (words e.1).getLast? == some name.toList).map fun e => readSet e.2).getD
    CharSet.empty

/-- The marks before numbers, which count as parts of them. -/
def numberMarks : CharSet :=
  (tabled "Prepended_Concatenation_Mark").diff (CharSet.singleton 0x70F)

/-- The characters that extend a cluster. -/
def clusterExtenders : CharSet :=
  (graphemeExtend.union (tabled "Emoji_Modifier")).diff (CharSet.singleton 0x200D)

/-- The marks that extend a word or a sentence. -/
def wordMarks : CharSet :=
  graphemeExtend.union (category "Mc")

/-- The spacing marks that stand by themselves, in scripts whose lines are cut by dictionary. -/
def loneMarks : CharSet := readSet
  "102B-102C 1038 1062-1064 1067-106D 1083 1087-108C 108F 109A-109C 1A61 1A63-1A64 AA7B AA7D
   11720-11721"

/-- The consonants and signs that belong to the cluster behind them. -/
def clusterHeads : CharSet := readSet
  "0D4E 111C2-111C3 113D1 1193F 11941 11A84-11A89 11D46 11F02"

/-- The Hangul syllables without a final consonant. -/
def openSyllables : CharSet :=
  CharSet.ofRanges ((List.range 399).map fun i => (0xAC00 + 28 * i, 0xAC00 + 28 * i))

def syllables : CharSet := readSet
  "AC00-D7A3"

/-- The letters of scripts that are written without spaces between words. -/
def unspacedLetters : CharSet := readSet
  "0E01-0E3A 0E40-0E4E 0E81-0E82 0E84 0E86-0E8A 0E8C-0EA3 0EA5 0EA7-0EBD 0EC0-0EC4 0EC6 0EC8-0ECE
   0EDC-0EDF 1000-103F 1050-108F 109A-109F 1780-17D3 17D7 17DC-17DD 1950-196D 1970-1974 1980-19AB
   19B0-19C9 19DA 19DE-19DF 1A20-1A5E 1A60-1A7C 1AA0-1AAD A9E0-A9EF A9FA-A9FE AA60-AAC2 AADB-AADF
   11700-1171A 1171D-1172B 1173A-1173B 1173F-11746"

/-- The signs that stand in words like letters. -/
def letterSigns : CharSet := readSet
  "00B8 02C2-02C5 02D2-02D7 02DE-02DF 02E5-02EB 02ED 02EF-02FF 055A-055C 055E 058A 05F3 070F
   A708-A716 A720-A721 A789-A78A AB5B"

def hebrewLetters : CharSet :=
  (script "Hebrew").inter (category "Lo")

def katakana : CharSet :=
  (script "Katakana").union (readSet "3031-3035 309B-309C 30A0 30FC FF70")

/-- The letters of words in other scripts. -/
def wordLetters : CharSet :=
  (alphabetic.union letterSigns).diff
    (CharSet.unions
      [tabled "Ideographic", katakana, unspacedLetters, script "Hiragana", wordMarks,
       hebrewLetters])

/-- The values of `Grapheme_Cluster_Break`, under their short and their long names. -/
def clusterBreaks : List (String × (Unit → CharSet)) := [
    ("CR", fun _ => CharSet.singleton 0x0D),
    ("LF", fun _ => CharSet.singleton 0x0A),
    ("CN Control", fun _ =>
      (CharSet.unions
        [anyCategory ["Zl", "Zp", "Cc", "Cf"],
         (category "Cn").inter (tabled "Default_Ignorable_Code_Point")]).diff
        (CharSet.unions
          [readSet "000A 000D 200C-200D", tabled "Prepended_Concatenation_Mark",
           clusterExtenders])),
    ("EX Extend", fun _ => clusterExtenders),
    ("ZWJ", fun _ => CharSet.singleton 0x200D),
    ("RI Regional_Indicator", fun _ => tabled "Regional_Indicator"),
    ("PP Prepend", fun _ => clusterHeads.union (tabled "Prepended_Concatenation_Mark")),
    ("SM SpacingMark", fun _ =>
      ((category "Mc").union (readSet "0E33 0EB3")).diff (clusterExtenders.union loneMarks)),
    ("L", fun _ => readSet "1100-115F A960-A97C"),
    ("V", fun _ => readSet "1160-11A7 D7B0-D7C6 16D63 16D67-16D6A"),
    ("T", fun _ => readSet "11A8-11FF D7CB-D7FB"),
    ("LV", fun _ => openSyllables),
    ("LVT", fun _ => syllables.diff openSyllables)
  ]

/-- The values of `Word_Break`, under their short and their long names. -/
def wordBreaks : List (String × (Unit → CharSet)) := [
    ("CR", fun _ => CharSet.singleton 0x0D),
    ("LF", fun _ => CharSet.singleton 0x0A),
    ("NL Newline", fun _ => readSet "000B-000C 0085 2028-2029"),
    ("Extend", fun _ =>
      (wordMarks.union (tabled "Emoji_Modifier")).diff (CharSet.singleton 0x200D)),
    ("ZWJ", fun _ => CharSet.singleton 0x200D),
    ("RI Regional_Indicator", fun _ => tabled "Regional_Indicator"),
    ("FO Format", fun _ =>
      (category "Cf").diff
        (CharSet.unions
          [readSet "200B-200D", tabled "Prepended_Concatenation_Mark", graphemeExtend])),
    ("KA Katakana", fun _ => katakana),
    ("HL Hebrew_Letter", fun _ => hebrewLetters),
    ("LE ALetter", fun _ => wordLetters),
    ("SQ Single_Quote", fun _ => CharSet.singleton 0x27),
    ("DQ Double_Quote", fun _ => CharSet.singleton 0x22),
    ("MB MidNumLet", fun _ => readSet "002E 2018-2019 2024 FE52 FF07 FF0E"),
    ("ML MidLetter", fun _ => readSet "003A 00B7 0387 055F 05F4 2027 FE13 FE55 FF1A"),
    ("MN MidNum", fun _ =>
      readSet "002C 003B 037E 0589 060C-060D 066C 07F8 2044 FE50 FE54 FF0C FF1B"),
    ("NU Numeric", fun _ =>
      CharSet.unions [category "Nd", CharSet.singleton 0x66B, numberMarks]),
    ("EX ExtendNumLet", fun _ => readSet "005F 202F 203F-2040 2054 FE33-FE34 FE4D-FE4F FF3F"),
    ("WSegSpace", fun _ => readSet "0020 1680 2000-2006 2008-200A 205F 3000")
  ]

/-- The characters that end a sentence, or an abbreviation as well. -/
def fullStops : CharSet := readSet
  "002E 2024 FE52 FF0E"

/-- The Georgian letters that differ in style and not in case. -/
def georgianStyles : CharSet := readSet
  "10D0-10FA 10FD-10FF 1C90-1CBA 1CBD-1CBF"

/-- The small letters of sentences. -/
def sentenceSmalls : CharSet :=
  lowercase.diff (graphemeExtend.union georgianStyles)

/-- The capital letters of sentences. -/
def sentenceCapitals : CharSet :=
  (uppercase.union (category "Lt")).diff georgianStyles

/-- The values of `Sentence_Break`, under their short and their long names. -/
def sentenceBreaks : List (String × (Unit → CharSet)) := [
    ("CR", fun _ => CharSet.singleton 0x0D),
    ("LF", fun _ => CharSet.singleton 0x0A),
    ("EX Extend", fun _ => wordMarks.union (CharSet.singleton 0x200D)),
    ("SE Sep", fun _ => readSet "0085 2028-2029"),
    ("FO Format", fun _ =>
      (category "Cf").diff
        (CharSet.unions [readSet "200C-200D", numberMarks, graphemeExtend])),
    ("SP Sp", fun _ =>
      (tabled "White_Space").diff (readSet "000A 000D 0085 2028-2029")),
    ("LO Lower", fun _ => sentenceSmalls),
    ("UP Upper", fun _ => sentenceCapitals),
    ("LE OLetter", fun _ =>
      (alphabetic.union (CharSet.singleton 0x5F3)).diff
        (CharSet.unions [sentenceSmalls, sentenceCapitals, wordMarks])),
    ("NU Numeric", fun _ =>
      CharSet.unions [category "Nd", readSet "066B-066C", numberMarks]),
    ("AT ATerm", fun _ => fullStops),
    ("SC SContinue", fun _ =>
      readSet
        "002C-002D 003A-003B 037E 055D 060C-060D 07F8 1802 1808 2013-2014 3001 FE10-FE11 FE13-FE14
         FE31-FE32 FE50-FE51 FE54-FE55 FE58 FE63 FF0C-FF0D FF1A-FF1B FF64"),
    ("ST STerm", fun _ => (tabled "Sentence_Terminal").diff fullStops),
    ("CL Close", fun _ =>
      (anyCategory ["Ps", "Pe", "Pi", "Pf"]).union
        (readSet "0022 0027 275B-2760 2E00-2E01 2E06-2E08 2E0B 1F676-1F678"))
  ]

end RuleGate.Unicode
