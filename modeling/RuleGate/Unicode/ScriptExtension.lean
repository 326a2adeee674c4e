import RuleGate.Unicode.Script

/-!
The Unicode script extensions: the code points that are used with a script. They are those of the
script itself and of a further table, except that the two general scripts lose what is used with
particular ones.
-/

namespace RuleGate.Unicode

/-- The code points that are used with a script without being of it. -/
def scriptExtras : List (String × String) := [
    ("Adlm Adlam",
      "061F 0640 204F 2E41"),
    ("Arab Arabic",
      "060C 061B 061F 0640 064B-0655 0670 204F 2E41 FD3E-FD3F 102E0-102FB"),
    ("Armn Armenian",
      "0308"),
    ("Avst Avestan",
      "00B7 2E30-2E31"),
    ("Beng Bengali",
      "02BC 0951-0952 0964-0965 1CD0 1CD2 1CD5-1CD6 1CD8 1CE1 1CEA 1CED 1CF2 1CF5-1CF7 A8F1"),
    ("Bopo Bopomofo",
      "02C7 02C9-02CB 02D9 3001-3003 3008-3011 3013-301F 302A-302D 3030 3037 30FB FE45-FE46
       FF61-FF65"),
    ("Bugi Buginese",
      "A9CF"),
    ("Buhd Buhid",
      "1735-1736"),
    ("Cari Carian",
      "00B7 205A 205D 2E31"),
    ("Aghb Caucasian_Albanian",
      "0304 0331 035E"),
    ("Cakm Chakma",
      "09E6-09EF 1040-1049"),
    ("Cher Cherokee",
      "0300-0302 0304 030B-030C 0323-0324 0330-0331"),
    ("Copt Coptic Qaac",
      "00B7 0300 0304-0305 0307 0374-0375 2E17 102E0-102FB"),
    ("Cprt Cypriot",
      "10100-10102 10107-10133 10137-1013F"),
    ("Cpmn Cypro_Minoan",
      "10100-10101"),
    ("Cyrl Cyrillic",
      "02BC 0300-0302 0304 0306 0308 030B 0311 0485-0486 1DF8 2E43"),
    ("Deva Devanagari",
      "02BC 0951-0952 0964-0965 1CD0-1CF6 1CF8-1CF9 20F0 A830-A839"),
    ("Dogr Dogra",
      "0964-096F A830-A839"),
    ("Dupl Duployan",
      "00B7 0307-0308 030A 0323-0324 2E3C 1BCA0-1BCA3"),
    ("Elba Elbasan",
      "00B7 0305"),
    ("Ethi Ethiopic",
      "030E"),
    ("Gara Garay",
      "060C 061B 061F"),
    ("Geor Georgian",
      "00B7 0589 10FB 205A 2E31"),
    ("Glag Glagolitic",
      "00B7 0303 0305 0484 0487 0589 10FB 205A 2E43 A66F"),
    ("Goth Gothic",
      "00B7 0304-0305 0308 0331"),
    ("Gran Grantha",
      "0951-0952 0964-0965 0BE6-0BF3 1CD0 1CD2-1CD3 1CF2-1CF4 1CF8-1CF9 20F0 1133B 11FD0-11FD1
       11FD3"),
    ("Grek Greek",
      "00B7 0300-0301 0304 0306 0308 0313 0342 0345 0374 1DC0-1DC1 205D"),
    ("Gujr Gujarati",
      "0951-0952 0964-0965 A830-A839"),
    ("Gong Gunjala_Gondi",
      "00B7 0964-0965"),
    ("Guru Gurmukhi",
      "0951-0952 0964-0965 A830-A839"),
    ("Gukh Gurung_Khema",
      "0965"),
    ("Hani Han",
      "00B7 2FF0-2FFF 3001-3003 3006 3008-3011 3013-301F 302A-302D 3030 3037 303C-303F 30FB
       3190-319F 31C0-31E5 31EF 3220-3247 3280-32B0 32C0-32CB 32FF 3358-3370 337B-337F 33E0-33FE
       A700-A707 FE45-FE46 FF61-FF65 1D360-1D371 1F250-1F251"),
    ("Hang Hangul",
      "3001-3003 3008-3011 3013-301F 3030 3037 30FB FE45-FE46 FF61-FF65"),
    ("Rohg Hanifi_Rohingya",
      "060C 061B 061F 0640 06D4"),
    ("Hano Hanunoo",
      "1735-1736"),
    ("Hebr Hebrew",
      "0307-0308"),
    ("Hira Hiragana",
      "3001-3003 3008-3011 3013-301F 3030-3035 3037 303C-303D 3099-309C 30A0 30FB-30FC FE45-FE46
       FF61-FF65 FF70 FF9E-FF9F"),
    ("Java Javanese",
      "A9CF"),
    ("Kthi Kaithi",
      "0966-096F 2E31 A830-A839"),
    ("Knda Kannada",
      "0951-0952 0964-0965 1CD0 1CD2-1CD3 1CDA 1CF2 1CF4 A830-A835"),
    ("Kana Katakana",
      "0305 0323 3001-3003 3008-3011 3013-301F 3030-3035 3037 303C-303D 3099-309C 30A0 30FB-30FC
       FE45-FE46 FF61-FF65 FF70 FF9E-FF9F"),
    ("Kali Kayah_Li",
      "A92E"),
    ("Khoj Khojki",
      "0AE6-0AEF A830-A839"),
    ("Sind Khudawadi",
      "0964-0965 A830-A839"),
    ("Latn Latin",
      "00B7 02BC 02C7 02C9-02CB 02CD 02D7 02D9 0300-030E 0310-0311 0313 0323-0325 032D-032E
       0330-0331 0358 035E 0363-036F 0485-0486 0951-0952 10FB 1DF8 202F 20F0 2E17 A700-A707 A92E"),
    ("Limb Limbu",
      "0965"),
    ("Lina Linear_A",
      "10107-10133"),
    ("Linb Linear_B",
      "10100-10102 10107-10133 10137-1013F"),
    ("Lisu",
      "02BC 02CD 300A-300B"),
    ("Lyci Lycian",
      "205A"),
    ("Lydi Lydian",
      "00B7 2E31"),
    ("Mahj Mahajani",
      "00B7 0964-096F A830-A839"),
    ("Mlym Malayalam",
      "0951-0952 0964-0965 1CDA 1CF2 A830-A832"),
    ("Mand Mandaic",
      "0640"),
    ("Mani Manichaean",
      "0640"),
    ("Gonm Masaram_Gondi",
      "0964-0965"),
    ("Mero Meroitic_Hieroglyphs",
      "205D"),
    ("Modi",
      "A830-A839"),
    ("Mong Mongolian",
      "1802-1803 1805 202F 3001-3002 3008-300B"),
    ("Mult Multani",
      "0A66-0A6F"),
    ("Mymr Myanmar",
      "A92E"),
    ("Nand Nandinagari",
      "0951 0964-0965 0CE6-0CEF 1CE9 1CF2 1CFA A830-A835"),
    ("Newa",
      "0951-0952 1CD5 1CD7-1CD8 1CE2 1CE9 1CEB 1CED"),
    ("Nkoo Nko",
      "060C 061B 061F FD3E-FD3F"),
    ("Onao Ol_Onal",
      "0964-0965"),
    ("Hung Old_Hungarian",
      "205A 205D 2E31 2E41"),
    ("Perm Old_Permic",
      "00B7 0300 0306-0308 0313 0483"),
    ("Orkh Old_Turkic",
      "205A 2E30"),
    ("Ougr Old_Uyghur",
      "0640 10AF2"),
    ("Orya Oriya",
      "0951-0952 0964-0965 1CDA 1CF2"),
    ("Osge Osage",
      "0301 0304 030B 0358"),
    ("Phag Phags_Pa",
      "1802-1803 1805 202F 3002"),
    ("Phlp Psalter_Pahlavi",
      "0640"),
    ("Runr Runic",
      "16EB-16ED"),
    ("Samr Samaritan",
      "2E31"),
    ("Shrd Sharada",
      "0951 1CD7 1CD9 1CDC-1CDD 1CE0 1CEA 1CED A830-A835 A838"),
    ("Shaw Shavian",
      "00B7"),
    ("Sinh Sinhala",
      "0964-0965 1CF2"),
    ("Sogd Sogdian",
      "0640"),
    ("Sunu Sunuwar",
      "0300-0301 0303 030D 0310 032D 0331"),
    ("Sylo Syloti_Nagri",
      "0964-0965 09E6-09EF"),
    ("Syrc Syriac",
      "0303-0304 0307-0308 030A 0323-0325 032D-032E 0330-0331 060C 061B-061C 061F 0640 064B-0655
       0670 1DF8 1DFA"),
    ("Tglg Tagalog",
      "1735-1736"),
    ("Tagb Tagbanwa",
      "1735-1736"),
    ("Tale Tai_Le",
      "0300-0301 0307-0308 030C 1040-1049"),
    ("Takr Takri",
      "0964-0965 A830-A839"),
    ("Taml Tamil",
      "0951-0952 0964-0965 1CDA A8F3 11301 11303 1133B-1133C"),
    ("Tang Tangut",
      "2FF0-2FFF 31EF"),
    ("Telu Telugu",
      "0951-0952 0964-0965 1CD5-1CD6 1CD8 1CDA 1CF2"),
    ("Thaa Thaana",
      "060C 061B-061C 061F 0660-0669 FDF2 FDFD"),
    ("Thai",
      "02BC 02D7 0303 0331"),
    ("Tibt Tibetan",
      "3008-300B"),
    ("Tfng Tifinagh",
      "0302 0304 0306-0309 0323"),
    ("Tirh Tirhuta",
      "0951-0952 0964-0965 1CD5 1CE2 1CF2 A830-A839"),
    ("Todr Todhri",
      "0301 0304 0307 0311 0313 035E"),
    ("Toto",
      "02BC"),
    ("Tutg Tulu_Tigalari",
      "0CE6-0CEF 1CF2 1CF4 A830-A835 A8F1"),
    ("Yezi Yezidi",
      "060C 061B 061F 0660-0669"),
    ("Yiii Yi",
      "3001-3002 3008-3011 3014-301B 30FB FF61-FF65")
  ]

/-- The code points of a script that are used with particular other scripts only. -/
def scriptLosses : List (String × String) := [
    ("Zyyy Common",
      "00B7 02BC 02C7 02C9-02CB 02CD 02D7 02D9 0374 060C 061B 061F 0640 0964-0965 10FB 16EB-16ED
       1735-1736 1802-1803 1805 1CD3 1CE1 1CE9-1CEC 1CEE-1CF3 1CF5-1CF7 1CFA 202F 204F 205A 205D
       2E17 2E30-2E31 2E3C 2E41 2E43 2FF0-2FFF 3001-3003 3006 3008-3011 3013-301F 3030-3035 3037
       303C-303F 309B-309C 30A0 30FB-30FC 3190-319F 31C0-31E5 31EF 3220-3247 3280-32B0 32C0-32CB
       32FF 3358-3370 337B-337F 33E0-33FE A700-A707 A830-A839 A92E A9CF FD3E-FD3F FE45-FE46
       FF61-FF65 FF70 FF9E-FF9F 10100-10102 10107-10133 10137-1013F 102E1-102FB 1BCA0-1BCA3
       1D360-1D371 1F250-1F251"),
    ("Zinh Inherited Qaai",
      "0300-030E 0310-0311 0313 0323-0325 032D-032E 0330-0331 0342 0345 0358 035E 0363-036F
       0485-0486 064B-0655 0670 0951-0952 1CD0-1CD2 1CD4-1CE0 1CE2-1CE8 1CED 1CF4 1CF8-1CF9
       1DC0-1DC1 1DF8 1DFA 20F0 302A-302D 3099-309A 102E0 1133B")
  ]

end RuleGate.Unicode
