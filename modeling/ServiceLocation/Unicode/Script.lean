import ServiceLocation.Text.RunLength

/-!
**Scripts.**

* `scriptNames`: the names of every script, first the one of four letters;
* `script`: the code points of a script;
* `scriptExtension`: the code points that are used in a script, though some are shared by several.
-/

namespace ServiceLocation.Unicode

open ServiceLocation.Text

/-- The names of the scripts, for each the one of four letters first. -/
def scriptNames : List (List String) :=
  [["Adlm", "Adlam"], ["Aghb", "Caucasian_Albanian"], ["Ahom", "Ahom"], ["Arab", "Arabic"],
   ["Armi", "Imperial_Aramaic"], ["Armn", "Armenian"], ["Avst", "Avestan"], ["Bali", "Balinese"],
   ["Bamu", "Bamum"], ["Bass", "Bassa_Vah"], ["Batk", "Batak"], ["Beng", "Bengali"],
   ["Bhks", "Bhaiksuki"], ["Bopo", "Bopomofo"], ["Brah", "Brahmi"], ["Brai", "Braille"],
   ["Bugi", "Buginese"], ["Buhd", "Buhid"], ["Cakm", "Chakma"], ["Cans", "Canadian_Aboriginal"],
   ["Cari", "Carian"], ["Cham", "Cham"], ["Cher", "Cherokee"], ["Chrs", "Chorasmian"],
   ["Copt", "Coptic", "Qaac"], ["Cpmn", "Cypro_Minoan"], ["Cprt", "Cypriot"],
   ["Cyrl", "Cyrillic"], ["Deva", "Devanagari"], ["Diak", "Dives_Akuru"], ["Dogr", "Dogra"],
   ["Dsrt", "Deseret"], ["Dupl", "Duployan"], ["Egyp", "Egyptian_Hieroglyphs"],
   ["Elba", "Elbasan"], ["Elym", "Elymaic"], ["Ethi", "Ethiopic"], ["Geor", "Georgian"],
   ["Glag", "Glagolitic"], ["Gong", "Gunjala_Gondi"], ["Gonm", "Masaram_Gondi"],
   ["Goth", "Gothic"], ["Gran", "Grantha"], ["Grek", "Greek"], ["Gujr", "Gujarati"],
   ["Guru", "Gurmukhi"], ["Hang", "Hangul"], ["Hani", "Han"], ["Hano", "Hanunoo"],
   ["Hatr", "Hatran"], ["Hebr", "Hebrew"], ["Hira", "Hiragana"],
   ["Hluw", "Anatolian_Hieroglyphs"], ["Hmng", "Pahawh_Hmong"],
   ["Hmnp", "Nyiakeng_Puachue_Hmong"], ["Hung", "Old_Hungarian"], ["Ital", "Old_Italic"],
   ["Java", "Javanese"], ["Kali", "Kayah_Li"], ["Kana", "Katakana"], ["Kawi", "Kawi"],
   ["Khar", "Kharoshthi"], ["Khmr", "Khmer"], ["Khoj", "Khojki"], ["Kits", "Khitan_Small_Script"],
   ["Knda", "Kannada"], ["Kthi", "Kaithi"], ["Lana", "Tai_Tham"], ["Laoo", "Lao"],
   ["Latn", "Latin"], ["Lepc", "Lepcha"], ["Limb", "Limbu"], ["Lina", "Linear_A"],
   ["Linb", "Linear_B"], ["Lisu", "Lisu"], ["Lyci", "Lycian"], ["Lydi", "Lydian"],
   ["Mahj", "Mahajani"], ["Maka", "Makasar"], ["Mand", "Mandaic"], ["Mani", "Manichaean"],
   ["Marc", "Marchen"], ["Medf", "Medefaidrin"], ["Mend", "Mende_Kikakui"],
   ["Merc", "Meroitic_Cursive"], ["Mero", "Meroitic_Hieroglyphs"], ["Mlym", "Malayalam"],
   ["Modi", "Modi"], ["Mong", "Mongolian"], ["Mroo", "Mro"], ["Mtei", "Meetei_Mayek"],
   ["Mult", "Multani"], ["Mymr", "Myanmar"], ["Nagm", "Nag_Mundari"], ["Nand", "Nandinagari"],
   ["Narb", "Old_North_Arabian"], ["Nbat", "Nabataean"], ["Newa", "Newa"], ["Nkoo", "Nko"],
   ["Nshu", "Nushu"], ["Ogam", "Ogham"], ["Olck", "Ol_Chiki"], ["Orkh", "Old_Turkic"],
   ["Orya", "Oriya"], ["Osge", "Osage"], ["Osma", "Osmanya"], ["Ougr", "Old_Uyghur"],
   ["Palm", "Palmyrene"], ["Pauc", "Pau_Cin_Hau"], ["Perm", "Old_Permic"], ["Phag", "Phags_Pa"],
   ["Phli", "Inscriptional_Pahlavi"], ["Phlp", "Psalter_Pahlavi"], ["Phnx", "Phoenician"],
   ["Plrd", "Miao"], ["Prti", "Inscriptional_Parthian"], ["Rjng", "Rejang"],
   ["Rohg", "Hanifi_Rohingya"], ["Runr", "Runic"], ["Samr", "Samaritan"],
   ["Sarb", "Old_South_Arabian"], ["Saur", "Saurashtra"], ["Sgnw", "SignWriting"],
   ["Shaw", "Shavian"], ["Shrd", "Sharada"], ["Sidd", "Siddham"], ["Sind", "Khudawadi"],
   ["Sinh", "Sinhala"], ["Sogd", "Sogdian"], ["Sogo", "Old_Sogdian"], ["Sora", "Sora_Sompeng"],
   ["Soyo", "Soyombo"], ["Sund", "Sundanese"], ["Sylo", "Syloti_Nagri"], ["Syrc", "Syriac"],
   ["Tagb", "Tagbanwa"], ["Takr", "Takri"], ["Tale", "Tai_Le"], ["Talu", "New_Tai_Lue"],
   ["Taml", "Tamil"], ["Tang", "Tangut"], ["Tavt", "Tai_Viet"], ["Telu", "Telugu"],
   ["Tfng", "Tifinagh"], ["Tglg", "Tagalog"], ["Thaa", "Thaana"], ["Thai", "Thai"],
   ["Tibt", "Tibetan"], ["Tirh", "Tirhuta"], ["Tnsa", "Tangsa"], ["Toto", "Toto"],
   ["Ugar", "Ugaritic"], ["Vaii", "Vai"], ["Vith", "Vithkuqi"], ["Wara", "Warang_Citi"],
   ["Wcho", "Wancho"], ["Xpeo", "Old_Persian"], ["Xsux", "Cuneiform"], ["Yezi", "Yezidi"],
   ["Yiii", "Yi"], ["Zanb", "Zanabazar_Square"], ["Zinh", "Inherited", "Qaai"],
   ["Zyyy", "Common"], ["Gara", "Garay"], ["Gukh", "Gurung_Khema"], ["Krai", "Kirat_Rai"],
   ["Onao", "Ol_Onal"], ["Sunu", "Sunuwar"], ["Todr", "Todhri"], ["Tutg", "Tulu_Tigalari"]]

/-- The script of every code point, by its name of four letters. -/
def scriptTable : Partition String := Partition.ofText String.ofList
  (String.join [
   "Zyyy.1t Latn.q Zyyy.6 Latn.q Zyyy.1b Latn.1 Zyyy.f Latn.1 Zyyy.5 Latn.n Zyyy.1 Latn.v ",
   "Zyyy.1 Latn.ch Zyyy.13 Latn.5 Zyyy.5 Bopo.2 Zyyy.k Zinh.34 Grek.4 Zyyy.1 Grek.3 Zzzz.2 ",
   "Grek.4 Zyyy.1 Grek.1 Zzzz.4 Grek.1 Zyyy.1 Grek.1 Zyyy.1 Grek.3 Zzzz.1 Grek.1 Zzzz.1 Grek.k ",
   "Zzzz.1 Grek.1r Copt.e Grek.g Cyrl.3p Zinh.2 Cyrl.4p Zzzz.1 Armn.12 Zzzz.2 Armn.1e Zzzz.2 ",
   "Armn.3 Zzzz.1 Hebr.1j Zzzz.8 Hebr.r Zzzz.4 Hebr.6 Zzzz.b Arab.5 Zyyy.1 Arab.6 Zyyy.1 ",
   "Arab.e Zyyy.1 Arab.3 Zyyy.1 Arab.w Zyyy.1 Arab.a Zinh.b Arab.q Zinh.1 Arab.30 Zyyy.1 ",
   "Arab.y Syrc.e Zzzz.1 Syrc.1o Zzzz.2 Syrc.3 Arab.1c Thaa.1e Zzzz.e Nkoo.1n Zzzz.2 Nkoo.3 ",
   "Samr.1a Zzzz.2 Samr.f Zzzz.1 Mand.s Zzzz.2 Mand.1 Zzzz.1 Syrc.b Zzzz.5 Arab.v Zzzz.1 ",
   "Arab.2 Zzzz.5 Arab.23 Zyyy.1 Arab.t Deva.29 Zinh.4 Deva.f Zyyy.2 Deva.q Beng.4 Zzzz.1 ",
   "Beng.8 Zzzz.2 Beng.2 Zzzz.2 Beng.m Zzzz.1 Beng.7 Zzzz.1 Beng.1 Zzzz.3 Beng.4 Zzzz.2 Beng.9 ",
   "Zzzz.2 Beng.2 Zzzz.2 Beng.4 Zzzz.8 Beng.1 Zzzz.4 Beng.2 Zzzz.1 Beng.5 Zzzz.2 Beng.p Zzzz.2 ",
   "Guru.3 Zzzz.1 Guru.6 Zzzz.4 Guru.2 Zzzz.2 Guru.m Zzzz.1 Guru.7 Zzzz.1 Guru.2 Zzzz.1 Guru.2 ",
   "Zzzz.1 Guru.2 Zzzz.2 Guru.1 Zzzz.1 Guru.5 Zzzz.4 Guru.2 Zzzz.2 Guru.3 Zzzz.3 Guru.1 Zzzz.7 ",
   "Guru.4 Zzzz.1 Guru.1 Zzzz.7 Guru.h Zzzz.a Gujr.3 Zzzz.1 Gujr.9 Zzzz.1 Gujr.3 Zzzz.1 Gujr.m ",
   "Zzzz.1 Gujr.7 Zzzz.1 Gujr.2 Zzzz.1 Gujr.5 Zzzz.2 Gujr.a Zzzz.1 Gujr.3 Zzzz.1 Gujr.3 Zzzz.2 ",
   "Gujr.1 Zzzz.f Gujr.4 Zzzz.2 Gujr.c Zzzz.7 Gujr.7 Zzzz.1 Orya.3 Zzzz.1 Orya.8 Zzzz.2 Orya.2 ",
   "Zzzz.2 Orya.m Zzzz.1 Orya.7 Zzzz.1 Orya.2 Zzzz.1 Orya.5 Zzzz.2 Orya.9 Zzzz.2 Orya.2 Zzzz.2 ",
   "Orya.3 Zzzz.7 Orya.3 Zzzz.4 Orya.2 Zzzz.1 Orya.5 Zzzz.2 Orya.i Zzzz.a Taml.2 Zzzz.1 Taml.6 ",
   "Zzzz.3 Taml.3 Zzzz.1 Taml.4 Zzzz.3 Taml.2 Zzzz.1 Taml.1 Zzzz.1 Taml.2 Zzzz.3 Taml.2 Zzzz.3 ",
   "Taml.3 Zzzz.3 Taml.c Zzzz.4 Taml.5 Zzzz.3 Taml.3 Zzzz.1 Taml.4 Zzzz.2 Taml.1 Zzzz.6 Taml.1 ",
   "Zzzz.e Taml.l Zzzz.5 Telu.d Zzzz.1 Telu.3 Zzzz.1 Telu.n Zzzz.1 Telu.g Zzzz.2 Telu.9 Zzzz.1 ",
   "Telu.3 Zzzz.1 Telu.4 Zzzz.7 Telu.2 Zzzz.1 Telu.3 Zzzz.2 Telu.1 Zzzz.2 Telu.4 Zzzz.2 Telu.a ",
   "Zzzz.7 Telu.9 Knda.d Zzzz.1 Knda.3 Zzzz.1 Knda.n Zzzz.1 Knda.a Zzzz.1 Knda.5 Zzzz.2 Knda.9 ",
   "Zzzz.1 Knda.3 Zzzz.1 Knda.4 Zzzz.7 Knda.2 Zzzz.6 Knda.2 Zzzz.1 Knda.4 Zzzz.2 Knda.a Zzzz.1 ",
   "Knda.3 Zzzz.c Mlym.d Zzzz.1 Mlym.3 Zzzz.1 Mlym.1f Zzzz.1 Mlym.3 Zzzz.1 Mlym.6 Zzzz.4 ",
   "Mlym.g Zzzz.2 Mlym.q Zzzz.1 Sinh.3 Zzzz.1 Sinh.i Zzzz.3 Sinh.o Zzzz.1 Sinh.9 Zzzz.1 Sinh.1 ",
   "Zzzz.2 Sinh.7 Zzzz.3 Sinh.1 Zzzz.4 Sinh.6 Zzzz.1 Sinh.1 Zzzz.1 Sinh.8 Zzzz.6 Sinh.a Zzzz.2 ",
   "Sinh.3 Zzzz.c Thai.1m Zzzz.4 Zyyy.1 Thai.s Zzzz.11 Laoo.2 Zzzz.1 Laoo.1 Zzzz.1 Laoo.5 ",
   "Zzzz.1 Laoo.o Zzzz.1 Laoo.1 Zzzz.1 Laoo.n Zzzz.2 Laoo.5 Zzzz.1 Laoo.1 Zzzz.1 Laoo.7 Zzzz.1 ",
   "Laoo.a Zzzz.2 Laoo.4 Zzzz.w Tibt.20 Zzzz.1 Tibt.10 Zzzz.4 Tibt.13 Zzzz.1 Tibt.10 Zzzz.1 ",
   "Tibt.f Zzzz.1 Tibt.7 Zyyy.4 Tibt.2 Zzzz.11 Mymr.4g Geor.12 Zzzz.1 Geor.1 Zzzz.5 Geor.1 ",
   "Zzzz.2 Geor.17 Zyyy.1 Geor.4 Hang.74 Ethi.21 Zzzz.1 Ethi.4 Zzzz.2 Ethi.7 Zzzz.1 Ethi.1 ",
   "Zzzz.1 Ethi.4 Zzzz.2 Ethi.15 Zzzz.1 Ethi.4 Zzzz.2 Ethi.x Zzzz.1 Ethi.4 Zzzz.2 Ethi.7 ",
   "Zzzz.1 Ethi.1 Zzzz.1 Ethi.4 Zzzz.2 Ethi.f Zzzz.1 Ethi.1l Zzzz.1 Ethi.4 Zzzz.2 Ethi.1v ",
   "Zzzz.2 Ethi.w Zzzz.3 Ethi.q Zzzz.6 Cher.2e Zzzz.2 Cher.6 Zzzz.2 Cans.hs Ogam.t Zzzz.3 ",
   "Runr.23 Zyyy.3 Runr.b Zzzz.7 Tglg.m Zzzz.9 Tglg.1 Hano.l Zyyy.2 Zzzz.9 Buhd.k Zzzz.c ",
   "Tagb.d Zzzz.1 Tagb.3 Zzzz.1 Tagb.2 Zzzz.c Khmr.2m Zzzz.2 Khmr.a Zzzz.6 Khmr.a Zzzz.6 ",
   "Mong.2 Zyyy.2 Mong.1 Zyyy.1 Mong.k Zzzz.6 Mong.2h Zzzz.7 Mong.17 Zzzz.5 Cans.1y Zzzz.a ",
   "Limb.v Zzzz.1 Limb.c Zzzz.4 Limb.c Zzzz.4 Limb.1 Zzzz.3 Limb.c Tale.u Zzzz.2 Tale.5 Zzzz.b ",
   "Talu.18 Zzzz.4 Talu.q Zzzz.6 Talu.b Zzzz.3 Talu.2 Khmr.w Bugi.s Zzzz.2 Bugi.2 Lana.1r ",
   "Zzzz.1 Lana.t Zzzz.2 Lana.b Zzzz.6 Lana.a Zzzz.6 Lana.e Zzzz.2 Zinh.v Zzzz.1d Bali.25 ",
   "Zzzz.1 Bali.1e Sund.1s Batk.1g Zzzz.8 Batk.4 Lepc.1k Zzzz.3 Lepc.f Zzzz.3 Lepc.3 Olck.1c ",
   "Cyrl.b Zzzz.5 Geor.17 Zzzz.2 Geor.3 Sund.8 Zzzz.8 Zinh.3 Zyyy.1 Zinh.d Zyyy.1 Zinh.7 ",
   "Zyyy.4 Zinh.1 Zyyy.6 Zinh.1 Zyyy.3 Zinh.2 Zyyy.1 Zzzz.5 Latn.12 Grek.5 Cyrl.1 Latn.1d ",
   "Grek.5 Latn.4 Grek.5 Latn.d Cyrl.1 Latn.1y Grek.1 Zinh.1s Latn.74 Grek.m Zzzz.2 Grek.6 ",
   "Zzzz.2 Grek.12 Zzzz.2 Grek.6 Zzzz.2 Grek.8 Zzzz.1 Grek.1 Zzzz.1 Grek.1 Zzzz.1 Grek.1 ",
   "Zzzz.1 Grek.v Zzzz.2 Grek.1h Zzzz.1 Grek.f Zzzz.1 Grek.e Zzzz.2 Grek.6 Zzzz.1 Grek.j ",
   "Zzzz.2 Grek.3 Zzzz.1 Grek.9 Zzzz.1 Zyyy.c Zinh.2 Zyyy.2f Zzzz.1 Zyyy.b Latn.1 Zzzz.2 ",
   "Zyyy.b Latn.1 Zyyy.f Zzzz.1 Latn.d Zzzz.3 Zyyy.x Zzzz.f Zinh.x Zzzz.f Zyyy.12 Grek.1 ",
   "Zyyy.3 Latn.2 Zyyy.6 Latn.1 Zyyy.r Latn.1 Zyyy.h Latn.15 Zyyy.3 Zzzz.4 Zyyy.ii Zzzz.m ",
   "Zyyy.b Zzzz.l Zyyy.ps Brai.74 Zyyy.hg Zzzz.2 Zyyy.w Zzzz.1 Zyyy.2x Glag.2o Latn.w Copt.38 ",
   "Zzzz.5 Copt.7 Geor.12 Zzzz.1 Geor.1 Zzzz.5 Geor.1 Zzzz.2 Tfng.1k Zzzz.7 Tfng.2 Zzzz.e ",
   "Tfng.1 Ethi.n Zzzz.9 Ethi.7 Zzzz.1 Ethi.7 Zzzz.1 Ethi.7 Zzzz.1 Ethi.7 Zzzz.1 Ethi.7 Zzzz.1 ",
   "Ethi.7 Zzzz.1 Ethi.7 Zzzz.1 Ethi.7 Zzzz.1 Cyrl.w Zyyy.2m Zzzz.y Hani.q Zzzz.1 Hani.2h ",
   "Zzzz.c Hani.5y Zzzz.q Zyyy.l Hani.1 Zyyy.1 Hani.1 Zyyy.p Hani.9 Zinh.4 Hang.2 Zyyy.8 ",
   "Hani.4 Zyyy.4 Zzzz.1 Hira.2e Zzzz.2 Zinh.2 Zyyy.2 Hira.3 Zyyy.1 Kana.2i Zyyy.2 Kana.3 ",
   "Zzzz.5 Bopo.17 Zzzz.1 Hang.2m Zzzz.1 Zyyy.g Bopo.w Zyyy.12 Zzzz.9 Zyyy.1 Kana.g Hang.v ",
   "Zzzz.1 Zyyy.1s Hang.v Zyyy.29 Kana.1b Zyyy.1 Kana.2g Zyyy.4o Hani.534 Zyyy.1s Hani.g74 ",
   "Yiii.wd Zzzz.3 Yiii.1j Zzzz.9 Lisu.1c Vaii.8c Zzzz.k Cyrl.2o Bamu.2g Zzzz.8 Zyyy.y Latn.2u ",
   "Zyyy.3 Latn.1v Zzzz.2 Latn.2 Zzzz.1 Latn.1 Zzzz.1 Latn.8 Zzzz.l Latn.e Sylo.19 Zzzz.3 ",
   "Zyyy.a Zzzz.6 Phag.1k Zzzz.8 Saur.1y Zzzz.8 Saur.c Zzzz.6 Deva.w Kali.1a Zyyy.1 Kali.1 ",
   "Rjng.10 Zzzz.b Rjng.1 Hang.t Zzzz.3 Java.26 Zzzz.1 Zyyy.1 Java.a Zzzz.4 Java.2 Mymr.v ",
   "Zzzz.1 Cham.1j Zzzz.9 Cham.e Zzzz.2 Cham.a Zzzz.2 Cham.4 Mymr.w Tavt.1v Zzzz.o Tavt.5 ",
   "Mtei.n Zzzz.a Ethi.6 Zzzz.2 Ethi.6 Zzzz.2 Ethi.6 Zzzz.9 Ethi.7 Zzzz.1 Ethi.7 Zzzz.1 ",
   "Latn.17 Zyyy.1 Latn.9 Grek.1 Latn.4 Zyyy.2 Zzzz.4 Cher.28 Mtei.1a Zzzz.2 Mtei.a Zzzz.6 ",
   "Hang.8mc Zzzz.c Hang.n Zzzz.4 Hang.1d Zzzz.6is Hani.a6 Zzzz.2 Hani.2y Zzzz.12 Latn.7 ",
   "Zzzz.c Armn.5 Zzzz.5 Hebr.q Zzzz.1 Hebr.5 Zzzz.1 Hebr.1 Zzzz.1 Hebr.2 Zzzz.1 Hebr.2 Zzzz.1 ",
   "Hebr.a Arab.37 Zzzz.g Arab.a3 Zyyy.2 Arab.28 Zzzz.2 Arab.1i Zzzz.7 Arab.1 Zzzz.w Arab.g ",
   "Zinh.g Zyyy.a Zzzz.6 Zinh.e Cyrl.2 Zyyy.z Zzzz.1 Zyyy.j Zzzz.1 Zyyy.4 Zzzz.4 Arab.5 Zzzz.1 ",
   "Arab.3r Zzzz.2 Zyyy.1 Zzzz.1 Zyyy.w Latn.q Zyyy.6 Latn.q Zyyy.b Kana.a Zyyy.1 Kana.19 ",
   "Zyyy.2 Hang.v Zzzz.3 Hang.6 Zzzz.2 Hang.6 Zzzz.2 Hang.6 Zzzz.2 Hang.3 Zzzz.3 Zyyy.7 Zzzz.1 ",
   "Zyyy.7 Zzzz.a Zyyy.5 Zzzz.2 Linb.c Zzzz.1 Linb.q Zzzz.1 Linb.j Zzzz.1 Linb.2 Zzzz.1 Linb.f ",
   "Zzzz.2 Linb.e Zzzz.y Linb.3f Zzzz.5 Zyyy.3 Zzzz.4 Zyyy.19 Zzzz.3 Zyyy.9 Grek.27 Zzzz.1 ",
   "Zyyy.d Zzzz.3 Grek.1 Zzzz.1b Zyyy.19 Zinh.1 Zzzz.3m Lyci.t Zzzz.3 Cari.1d Zzzz.f Zinh.1 ",
   "Zyyy.r Zzzz.4 Ital.10 Zzzz.9 Ital.3 Goth.r Zzzz.5 Perm.17 Zzzz.5 Ugar.u Zzzz.1 Ugar.1 ",
   "Xpeo.10 Zzzz.4 Xpeo.e Zzzz.16 Dsrt.28 Shaw.1c Osma.u Zzzz.2 Osma.a Zzzz.6 Osge.10 Zzzz.4 ",
   "Osge.10 Zzzz.4 Elba.14 Zzzz.8 Aghb.1g Zzzz.b Aghb.1 Vith.b Zzzz.1 Vith.f Zzzz.1 Vith.7 ",
   "Zzzz.1 Vith.2 Zzzz.1 Vith.b Zzzz.1 Vith.f Zzzz.1 Vith.7 Zzzz.1 Vith.2 Zzzz.3 Todr.1g ",
   "Zzzz.c Lina.8n Zzzz.9 Lina.m Zzzz.a Lina.8 Zzzz.o Latn.6 Zzzz.1 Latn.16 Zzzz.1 Latn.9 ",
   "Zzzz.1x Cprt.6 Zzzz.2 Cprt.1 Zzzz.1 Cprt.18 Zzzz.1 Cprt.2 Zzzz.3 Cprt.1 Zzzz.2 Cprt.1 ",
   "Armi.m Zzzz.1 Armi.9 Palm.w Nbat.v Zzzz.8 Nbat.9 Zzzz.1c Hatr.j Zzzz.1 Hatr.2 Zzzz.5 ",
   "Hatr.5 Phnx.s Zzzz.3 Phnx.1 Lydi.q Zzzz.5 Lydi.1 Zzzz.1s Mero.w Merc.o Zzzz.4 Merc.k ",
   "Zzzz.2 Merc.1a Khar.4 Zzzz.1 Khar.2 Zzzz.5 Khar.8 Zzzz.1 Khar.3 Zzzz.1 Khar.t Zzzz.2 ",
   "Khar.3 Zzzz.4 Khar.a Zzzz.7 Khar.9 Zzzz.7 Sarb.w Narb.w Zzzz.w Mani.13 Zzzz.4 Mani.c ",
   "Zzzz.9 Avst.1i Zzzz.3 Avst.7 Prti.m Zzzz.2 Prti.8 Phli.j Zzzz.5 Phli.8 Phlp.i Zzzz.7 ",
   "Phlp.4 Zzzz.c Phlp.7 Zzzz.28 Orkh.21 Zzzz.1j Hung.1f Zzzz.d Hung.1f Zzzz.7 Hung.6 Rohg.14 ",
   "Zzzz.8 Rohg.a Zzzz.6 Gara.12 Zzzz.3 Gara.t Zzzz.8 Gara.2 Zzzz.5s Arab.v Zzzz.1 Yezi.16 ",
   "Zzzz.1 Yezi.3 Zzzz.2 Yezi.2 Zzzz.g Arab.3 Zzzz.1j Arab.4 Sogo.14 Zzzz.8 Sogd.16 Zzzz.m ",
   "Ougr.q Zzzz.12 Chrs.s Zzzz.k Elym.n Zzzz.9 Brah.26 Zzzz.4 Brah.10 Zzzz.9 Brah.1 Kthi.1v ",
   "Zzzz.a Kthi.1 Zzzz.2 Sora.p Zzzz.7 Sora.a Zzzz.6 Cakm.1h Zzzz.1 Cakm.i Zzzz.8 Mahj.13 ",
   "Zzzz.9 Shrd.2o Zzzz.1 Sinh.k Zzzz.b Khoj.i Zzzz.1 Khoj.1b Zzzz.1q Mult.7 Zzzz.1 Mult.1 ",
   "Zzzz.1 Mult.4 Zzzz.1 Mult.f Zzzz.1 Mult.b Zzzz.6 Sind.1n Zzzz.5 Sind.a Zzzz.6 Gran.4 ",
   "Zzzz.1 Gran.8 Zzzz.2 Gran.2 Zzzz.2 Gran.m Zzzz.1 Gran.7 Zzzz.1 Gran.2 Zzzz.1 Gran.5 Zzzz.1 ",
   "Zinh.1 Gran.9 Zzzz.2 Gran.2 Zzzz.2 Gran.3 Zzzz.2 Gran.1 Zzzz.6 Gran.1 Zzzz.5 Gran.7 Zzzz.2 ",
   "Gran.7 Zzzz.3 Gran.5 Zzzz.b Tutg.a Zzzz.1 Tutg.1 Zzzz.2 Tutg.1 Zzzz.1 Tutg.12 Zzzz.1 ",
   "Tutg.a Zzzz.1 Tutg.1 Zzzz.2 Tutg.1 Zzzz.1 Tutg.4 Zzzz.1 Tutg.a Zzzz.1 Tutg.2 Zzzz.8 Tutg.2 ",
   "Zzzz.t Newa.2k Zzzz.1 Newa.5 Zzzz.u Tirh.20 Zzzz.8 Tirh.a Zzzz.4m Sidd.1i Zzzz.2 Sidd.12 ",
   "Zzzz.y Modi.1x Zzzz.b Modi.a Zzzz.6 Mong.d Zzzz.j Takr.1m Zzzz.6 Takr.a Zzzz.6 Mymr.k ",
   "Zzzz.s Ahom.r Zzzz.2 Ahom.f Zzzz.4 Ahom.n Zzzz.55 Dogr.1o Zzzz.2s Wara.2b Zzzz.c Wara.1 ",
   "Diak.7 Zzzz.2 Diak.1 Zzzz.2 Diak.8 Zzzz.1 Diak.2 Zzzz.1 Diak.u Zzzz.1 Diak.2 Zzzz.2 Diak.c ",
   "Zzzz.9 Diak.a Zzzz.1y Nand.8 Zzzz.2 Nand.1a Zzzz.2 Nand.b Zzzz.r Zanb.20 Zzzz.8 Soyo.2b ",
   "Zzzz.d Cans.g Pauc.1l Zzzz.7 Deva.a Zzzz.52 Sunu.y Zzzz.e Sunu.a Zzzz.6 Bhks.9 Zzzz.1 ",
   "Bhks.19 Zzzz.1 Bhks.e Zzzz.a Bhks.t Zzzz.3 Marc.w Zzzz.2 Marc.m Zzzz.1 Marc.e Zzzz.21 ",
   "Gonm.7 Zzzz.1 Gonm.2 Zzzz.1 Gonm.18 Zzzz.3 Gonm.1 Zzzz.1 Gonm.2 Zzzz.1 Gonm.9 Zzzz.8 ",
   "Gonm.a Zzzz.6 Gong.6 Zzzz.1 Gong.2 Zzzz.1 Gong.11 Zzzz.1 Gong.2 Zzzz.1 Gong.6 Zzzz.7 ",
   "Gong.a Zzzz.8m Maka.p Zzzz.7 Kawi.h Zzzz.1 Kawi.15 Zzzz.3 Kawi.t Zzzz.2d Lisu.1 Zzzz.f ",
   "Taml.1e Zzzz.d Taml.1 Xsux.pm Zzzz.2u Xsux.33 Zzzz.1 Xsux.5 Zzzz.b Xsux.5g Zzzz.218 ",
   "Cpmn.2r Zzzz.d Egyp.uu Zzzz.a Egyp.32z Zzzz.5 Hluw.g7 Zzzz.5a1 Gukh.1m Zzzz.1c6 Bamu.ft ",
   "Zzzz.7 Mroo.v Zzzz.1 Mroo.a Zzzz.4 Mroo.2 Tnsa.27 Zzzz.1 Tnsa.a Zzzz.6 Bass.u Zzzz.2 ",
   "Bass.6 Zzzz.a Hmng.1y Zzzz.a Hmng.a Zzzz.1 Hmng.7 Zzzz.1 Hmng.l Zzzz.5 Hmng.j Zzzz.c0 ",
   "Krai.1m Zzzz.5i Medf.2j Zzzz.2t Plrd.23 Zzzz.4 Plrd.1l Zzzz.7 Plrd.h Zzzz.1s Tang.1 Nshu.1 ",
   "Hani.2 Kits.1 Zzzz.b Hani.2 Zzzz.e Tang.4qg Zzzz.8 Tang.lc Kits.d2 Zzzz.15 Kits.1 Tang.9 ",
   "Zzzz.6w7 Kana.4 Zzzz.1 Kana.7 Zzzz.1 Kana.2 Zzzz.1 Kana.1 Hira.7z Kana.3 Zzzz.f Hira.1 ",
   "Zzzz.t Hira.3 Zzzz.2 Kana.1 Zzzz.e Kana.4 Zzzz.8 Nshu.b0 Zzzz.1s4 Dupl.2z Zzzz.5 Dupl.d ",
   "Zzzz.3 Dupl.9 Zzzz.7 Dupl.a Zzzz.2 Dupl.4 Zyyy.4 Zzzz.318 Zyyy.6y Zzzz.6 Zyyy.c4 Zzzz.24 ",
   "Zinh.1a Zzzz.2 Zinh.n Zzzz.9 Zyyy.38 Zzzz.1o Zyyy.6u Zzzz.a Zyyy.13 Zzzz.2 Zyyy.1q Zinh.3 ",
   "Zyyy.h Zinh.8 Zyyy.2 Zinh.7 Zyyy.u Zinh.4 Zyyy.1p Zzzz.l Grek.1y Zzzz.3e Zyyy.k Zzzz.c ",
   "Zyyy.k Zzzz.c Zyyy.2f Zzzz.9 Zyyy.p Zzzz.3r Zyyy.2d Zzzz.1 Zyyy.1z Zzzz.1 Zyyy.2 Zzzz.2 ",
   "Zyyy.1 Zzzz.2 Zyyy.2 Zzzz.2 Zyyy.4 Zzzz.1 Zyyy.c Zzzz.1 Zyyy.1 Zzzz.1 Zyyy.7 Zzzz.1 ",
   "Zyyy.1t Zzzz.1 Zyyy.4 Zzzz.2 Zyyy.8 Zzzz.1 Zyyy.7 Zzzz.1 Zyyy.s Zzzz.1 Zyyy.4 Zzzz.1 ",
   "Zyyy.5 Zzzz.1 Zyyy.1 Zzzz.3 Zyyy.7 Zzzz.1 Zyyy.9g Zzzz.2 Zyyy.84 Zzzz.2 Zyyy.1e Sgnw.i4 ",
   "Zzzz.f Sgnw.5 Zzzz.1 Sgnw.f Zzzz.uo Latn.v Zzzz.6 Latn.6 Zzzz.5x Glag.7 Zzzz.1 Glag.h ",
   "Zzzz.2 Glag.7 Zzzz.1 Glag.2 Zzzz.1 Glag.5 Zzzz.5 Cyrl.1q Zzzz.x Cyrl.1 Zzzz.34 Hmnp.19 ",
   "Zzzz.3 Hmnp.e Zzzz.2 Hmnp.a Zzzz.4 Hmnp.2 Zzzz.8w Toto.v Zzzz.h Wcho.1m Zzzz.5 Wcho.1 ",
   "Zzzz.cw Nagm.16 Zzzz.5y Onao.17 Zzzz.4 Onao.1 Zzzz.dc Ethi.7 Zzzz.1 Ethi.4 Zzzz.1 Ethi.2 ",
   "Zzzz.1 Ethi.f Zzzz.1 Mend.5h Zzzz.2 Mend.g Zzzz.15 Adlm.24 Zzzz.4 Adlm.a Zzzz.4 Adlm.2 ",
   "Zzzz.lt Zyyy.1w Zzzz.24 Zyyy.1p Zzzz.5e Arab.4 Zzzz.1 Arab.r Zzzz.1 Arab.2 Zzzz.1 Arab.1 ",
   "Zzzz.2 Arab.1 Zzzz.1 Arab.a Zzzz.1 Arab.4 Zzzz.1 Arab.1 Zzzz.1 Arab.1 Zzzz.6 Arab.1 Zzzz.4 ",
   "Arab.1 Zzzz.1 Arab.1 Zzzz.1 Arab.1 Zzzz.1 Arab.3 Zzzz.1 Arab.2 Zzzz.1 Arab.1 Zzzz.2 Arab.1 ",
   "Zzzz.1 Arab.1 Zzzz.1 Arab.1 Zzzz.1 Arab.1 Zzzz.1 Arab.1 Zzzz.1 Arab.2 Zzzz.1 Arab.1 Zzzz.2 ",
   "Arab.4 Zzzz.1 Arab.7 Zzzz.1 Arab.4 Zzzz.1 Arab.4 Zzzz.1 Arab.1 Zzzz.1 Arab.a Zzzz.1 Arab.h ",
   "Zzzz.5 Arab.3 Zzzz.1 Arab.5 Zzzz.1 Arab.h Zzzz.1g Arab.2 Zzzz.7i Zyyy.18 Zzzz.4 Zyyy.2s ",
   "Zzzz.c Zyyy.f Zzzz.2 Zyyy.f Zzzz.1 Zyyy.f Zzzz.1 Zyyy.11 Zzzz.a Zyyy.4u Zzzz.1k Zyyy.q ",
   "Hira.1 Zyyy.2 Zzzz.d Zyyy.18 Zzzz.4 Zyyy.9 Zzzz.7 Zyyy.2 Zzzz.e Zyyy.6 Zzzz.4a Zyyy.rc ",
   "Zzzz.4 Zyyy.h Zzzz.3 Zyyy.d Zzzz.3 Zyyy.3b Zzzz.4 Zyyy.2n Zzzz.6 Zyyy.c Zzzz.4 Zyyy.1 ",
   "Zzzz.f Zyyy.c Zzzz.4 Zyyy.1k Zzzz.8 Zyyy.a Zzzz.6 Zyyy.14 Zzzz.8 Zyyy.u Zzzz.2 Zyyy.c ",
   "Zzzz.4 Zyyy.2 Zzzz.1q Zyyy.9g Zzzz.c Zyyy.e Zzzz.2 Zyyy.d Zzzz.3 Zyyy.a Zzzz.5 Zyyy.1k ",
   "Zzzz.7 Zyyy.f Zzzz.2 Zyyy.b Zzzz.6 Zyyy.9 Zzzz.7 Zyyy.43 Zzzz.1 Zyyy.2u Zzzz.sm Hani.wyo ",
   "Zzzz.w Hani.37e Zzzz.6 Hani.66 Zzzz.2 Hani.4g2 Zzzz.e Hani.5rl Zzzz.f Hani.ha Zzzz.1wi ",
   "Hani.f2 Zzzz.15u Hani.3t7 Zzzz.5 Hani.38g Zzzz.f975 Zyyy.1 Zzzz.u Zyyy.2o Zzzz.3k Zinh.6o ",
   "Zzzz.47bk"])

/-- The code points used in a script, where they are not those of the script alone. -/
def scriptExtensions : List (String × CharSet) :=
  [("Adlm", .ofRuns "17j 1 w 1 55a 1 2r5 1 2fge 24 4 a 4 2"),
   ("Aghb", .ofRuns "lg 1 18 1 18 1 1exd 1g b 1"),
   ("Arab", .ofRuns
     (String.join [
     "16o 5 1 5z 1 y 28 1c 6o v 1 2 5 23 1 t 4lr 1 2r5 1 14i6 37 g cd 2 1i 7 1 w g 34 5 1 3r ",
     "rn s 290 v 1v 3 1j 4 181s 4 1 r 1 2 1 1 2 1 1 a 1 4 1 1 1 1 6 1 4 1 1 1 1 1 1 3 1 2 1 1 ",
     "2 1 1 1 1 1 1 1 1 1 1 2 1 1 2 4 1 7 1 4 1 4 1 1 1 a 1 h 5 3 1 5 1 h 1g 2"])),
   ("Armn", .ofRuns "lk 1 fc 12 2 1e 2 3 1chv 5"),
   ("Avst", .ofRuns "53 1 8zc 2 17m6 1i 3 7"),
   ("Beng", .ofRuns
     (String.join [
     "jg 1 1as 2 h 2 q 4 1 8 2 2 2 m 1 7 1 1 3 4 2 9 2 2 2 4 8 1 4 2 1 5 2 p 3pt 1 1 1 2 2 1 1 ",
     "8 1 8 1 2 1 4 1 2 3 rnd 1"])),
   ("Bopo", .ofRuns "jr 1 1 3 d 1 g 2 8wl 3 4 a 1 d a 4 2 1 6 1 5f 1 9 17 34 w 14ed 2 7u 5"),
   ("Bugi", .ofRuns "54w s 2 2 sdr 1"),
   ("Buhd", .ofRuns "4l1 2 9 k"),
   ("Cakm", .ofRuns "1ye a 18w a 1epi 1h 1 i"),
   ("Cari", .ofRuns "53 1 68y 1 2 1 2qb 1 15ym 1d"),
   ("Cher", .ofRuns "lc 3 1 1 6 2 m 2 b 2 38u 2e 2 6 twy 28"),
   ("Copt", .ofRuns "53 1 g8 1 3 2 1 1 30 2 30 e 80g 38 5 7 7r 1 1614 s"),
   ("Cpmn", .ofRuns "1erk 2 972 2r"),
   ("Cprt", .ofRuns "1erk 3 4 19 3 9 1c0 6 2 1 1 18 1 2 3 1 2 1"),
   ("Cyrl", .ofRuns
     (String.join [
     "jg 1 1v 3 1 1 1 1 1 1 2 1 5 1 6m 8g 4ls b 4g 1 24 1 3j 1 353 w 1v 1 np8 2o ham 2 18n4 1q ",
     "x 1"])),
   ("Deva", .ofRuns "jg 1 18j 2b 2 17 3tc 13 1 2 s6 1 qpr a 4m w mio a"),
   ("Dogr", .ofRuns "1us c vcw a m2u 1o"),
   ("Dupl", .ofRuns "53 1 gf 2 1 1 o 2 8if 1 26kj 2z 5 d 3 9 7 a 2 8"),
   ("Elba", .ofRuns "53 1 gd 1 1eyi 14"),
   ("Ethi", .ofRuns
     (String.join [
     "lq 1 2y9 21 1 4 2 7 1 1 1 4 2 15 1 4 2 x 1 4 2 7 1 1 1 4 2 f 1 1l 1 4 2 1v 2 w 3 q 546 n ",
     "9 7 1 7 1 7 1 7 1 7 1 7 1 7 1 7 opu 6 2 6 2 6 9 7 1 7 1qk1 7 1 4 1 2 1 f"])),
   ("Geor", .ofRuns "53 1 y9 1 26u 12 1 1 5 1 2 1c 2a8 17 2 3 pm 1 2hx 12 1 1 5 1 77 1"),
   ("Glag", .ofRuns
     "53 1 gb 1 1 1 am 1 2 1 75 1 29d 1 31a 1 2at 2o df 1 nqj 1 1pxs 7 1 h 2 7 1 2 1 5"),
   ("Gong", .ofRuns "53 1 1po 2 1iii 6 1 2 1 11 1 2 1 6 7 a"),
   ("Gonm", .ofRuns "1us 2 1ifu 7 1 2 1 18 3 1 1 2 1 9 8 a"),
   ("Goth", .ofRuns "53 1 gc 2 2 1 14 1 1eke r"),
   ("Gran", .ofRuns
     (String.join [
     "1u9 2 h 2 hs e 3bw 1 1 2 u 3 3 2 s6 1 1btb 4 1 8 2 2 2 m 1 7 1 2 1 5 1 a 2 2 2 3 2 1 6 1 ",
     "5 7 2 7 3 5 2fv 2 1 1"])),
   ("Grek", .ofRuns
     (String.join [
     "53 1 g8 2 2 1 1 1 1 1 a 1 1a 1 2 1 16 8 2 4 1 1 4 1 1 1 1 3 1 1 1 k 1 1r e g 4yu 5 1e 5 ",
     "4 5 2c 3 8u m 2 6 2 12 2 6 2 8 1 1 1 1 1 1 1 v 2 1h 1 f 1 e 2 6 1 j 2 3 1 9 2m 1 5k 1 ",
     "rb2 1 gyi 27 h 1 155r 1y"])),
   ("Gujr", .ofRuns "1u9 2 h 2 7v 3 1 9 1 3 1 m 1 7 1 2 1 5 2 a 1 3 1 3 2 1 f 4 2 c 7 7 v1s a"),
   ("Guru", .ofRuns
     "1u9 2 h 2 4b 3 1 6 4 2 2 m 1 7 1 2 1 2 1 2 2 1 1 5 4 2 2 3 3 1 7 4 1 1 7 h v5l a"),
   ("Hang", .ofRuns
     (String.join [
     "3cw 74 5xd 3 4 a 1 d e 3 6 1 5f 1 1h 2m 35 v 1t v nhd t hv 8mc c n 4 1d 7k9 2 7u 5 1m v ",
     "3 6 2 6 2 6 2 3"])),
   ("Hani", .ofRuns
     (String.join [
     "53 1 91k q 1 2h c 5y q g 1 3 1 d 1 d 1 d 2 1 6 9 57 1 44 g w 12 9 1 1c 14 1k 1d f c 1f 1 ",
     "2g p a 5 2o v 1 534 1s g74 1ds 8 g6w a6 2 2y ob 2 7u 5 m7w 2 c 2 jn2 i 63i 2 2pa wyo w ",
     "37e 6 66 2 4g2 e 5rl f ha 1wi f2 15u 3t7 5 38g"])),
   ("Hano", .ofRuns "4kg n"),
   ("Hebr", .ofRuns "lj 2 i0 1j 8 r 4 6 1cfc q 1 5 1 1 1 2 1 2 1 a"),
   ("Hira", .ofRuns
     "9hd 3 4 a 1 d g 6 1 1 4 2 3 2e 2 8 2i 2 14js 2 7u 5 a 1 19 2 yu9 7z i 1 t 3 crx 1"),
   ("Hung", .ofRuns "6e2 1 2 1 2qb 1 f 1 17we 1f d 1f 7 6"),
   ("Java", .ofRuns "xhc 26 1 b 4 2"),
   ("Kali", .ofRuns "xds 1c"),
   ("Kana", .ofRuns
     (String.join [
     "lh 1 t 1 8v1 3 4 a 1 d g 6 1 1 4 2 2j 4 3 2o 6o g 5s 1b 1 2g 1431 2 7u 1r yts 4 1 7 1 2 ",
     "1 1 7z 3 1e 1 e 4"])),
   ("Khoj", .ofRuns "25i a v28 a kw6 i 1 1b"),
   ("Knda", .ofRuns
     (String.join [
     "1u9 2 h 2 m2 d 1 3 1 n 1 a 1 5 2 9 1 3 1 4 7 2 6 2 1 4 2 a 1 3 34s 1 1 2 6 1 n 1 1 1 ri3 ",
     "6"])),
   ("Kthi", .ofRuns "1uu a 79d 1 o3i a kli 1v a 1"),
   ("Latn", .ofRuns
     (String.join [
     "1t q 6 q 1b 1 c 1 2 1 5 n 1 v 1 ch 3 1 a 1 1 3 1 1 9 1 1 1 6 5 r f 1 2 1 1 f 3 7 2 1 2 ",
     "12 1 5 1 4 d 7p 2 y2 2 1ig 1 2dg 12 6 1d 5 4 5 d 1 1y 1l 1 7 74 8f 1 1t 1 d 1 g d 2b 1 ",
     "1l 2 6 1 r 1 h 15 253 w bb 1 nvs 8 q 2u 3 1v 2 2 1 1 1 8 l e 8e 1 e9 17 1 9 1 4 fpy 7 t6 ",
     "q 6 q 1lx 6 1 16 1 9 16it v 6 6"])),
   ("Limb", .ofRuns "1ut 1 32y v 1 c 4 c 4 1 3 c"),
   ("Lina", .ofRuns "1err 19 y4 8n 9 m a 8"),
   ("Linb", .ofRuns "1ekg c 1 q 1 j 1 2 1 f 2 e y 3f 5 3 4 19 3 9"),
   ("Lisu", .ofRuns "jg 1 g 1 8xo 2 n2c 1c o8g 1"),
   ("Lyci", .ofRuns "6e2 1 18o5 t"),
   ("Lydi", .ofRuns "53 1 8zd 1 178u q 5 1"),
   ("Mahj", .ofRuns "53 1 1po c vcw a kra 13"),
   ("Mand", .ofRuns "18g 1 e7 s 2 1"),
   ("Mani", .ofRuns "18g 1 1fgf 13 4 c"),
   ("Mero", .ofRuns "6e5 1 1a1u w"),
   ("Mlym", .ofRuns "1u9 2 h 2 pm d 1 3 1 1f 1 3 1 6 4 g 2 q 316 1 n 1 ri5 3"),
   ("Modi", .ofRuns "x80 a lom 1x b a"),
   ("Mong", .ofRuns "4qo q 6 2h 7 17 1hg 1 34h 2 5 4 19hw d"),
   ("Mult", .ofRuns "21y a 1g5s 7 1 1 1 4 1 f 1 b"),
   ("Mymr", .ofRuns "35s 4g u4u 1 4x v 2p w le8 k"),
   ("Nand", .ofRuns "1u9 1 i 2 ow a 35l 1 8 1 7 1 rhx 6 mei 8 2 1a 2 b"),
   ("Newa", .ofRuns "1u9 2 3uq 1 1 2 9 1 6 1 1 1 1 1 1csy 2k 1 5"),
   ("Nkoo", .ofRuns "170 1 e 1 3 1 bk 1n 2 3 1cfy 2"),
   ("Orkh", .ofRuns "6e2 1 2qd 1 17tb 21"),
   ("Orya", .ofRuns "1u9 2 h 2 bf 3 1 8 2 2 2 m 1 7 1 2 1 5 2 9 2 2 2 3 7 3 4 2 1 5 2 i 3fm 1 n 1"),
   ("Osge", .ofRuns "ld 1 2 1 6 1 24 1 1etz 10 4 10"),
   ("Ougr", .ofRuns "18g 1 1fht 1 vx q"),
   ("Perm", .ofRuns "53 1 g8 1 5 3 a 1 a7 1 1ebw 17"),
   ("Phag", .ofRuns "4qq 2 1 1 1m1 1 34i 1 nr1 1k"),
   ("Phlp", .ofRuns "18g 1 1flr i 7 4 c 7"),
   ("Rohg", .ofRuns "170 1 e 1 3 1 w 1 43 1 1fsb 14 8 a"),
   ("Runr", .ofRuns "4gw 2h"),
   ("Samr", .ofRuns "1kw 1a 2 f 7hu 1"),
   ("Shaw", .ofRuns "53 1 1fa0 1c"),
   ("Shrd", .ofRuns "1u9 1 3ut 1 1 1 2 2 2 1 9 1 2 1 ria 6 2 1 ksn 2o"),
   ("Sind", .ofRuns "1us 2 vd6 a l12 1n 5 a"),
   ("Sinh", .ofRuns "1us 2 t7 3 1 i 3 o 1 9 1 1 2 7 3 1 4 6 1 1 1 8 6 a 2 3 2yl 1 1cdq k"),
   ("Sogd", .ofRuns "18g 1 1gbz 16"),
   ("Sylo", .ofRuns "1us 2 3k a v80 19"),
   ("Syrc", .ofRuns
     "lf 2 2 2 1 1 o 3 7 2 1 2 ka 1 e 2 2 1 w 1 a b q 1 3z e 1 1o 2 3 7k b 499 1 1 1"),
   ("Tagb", .ofRuns "4l1 2 15 d 1 3 1 2"),
   ("Takr", .ofRuns "1us 2 vd6 a ls6 1m 6 a"),
   ("Tale", .ofRuns "lc 2 5 2 3 1 2lv a 1s6 u 2 5"),
   ("Taml", .ofRuns
     (String.join [
     "1u9 2 h 2 f0 2 1 6 3 3 1 4 3 2 1 1 1 2 3 2 3 3 3 c 4 5 3 3 1 4 2 1 6 1 e l 3bz 1 ro8 1 ",
     "ky5 1 1 1 1j 2 2gz 1e d 1"])),
   ("Tang", .ofRuns "9gw g dr 1 1qsw 1 v 4qg 8 lc e8 9"),
   ("Telu", .ofRuns
     "1u9 2 h 2 ii d 1 3 1 n 1 g 2 9 1 3 1 4 7 2 1 3 2 1 2 4 2 a 7 9 385 2 1 1 1 1 n 1"),
   ("Tfng", .ofRuns "le 1 1 1 1 4 p 1 8b0 1k 7 2 e 1"),
   ("Tglg", .ofRuns "4jk m 9 1 l 2"),
   ("Thaa", .ofRuns "170 1 e 2 2 1 1s a 7q 1e 1cn4 1 a 1"),
   ("Thai", .ofRuns "jg 1 q 1 17 1 19 1 24v 1m 5 s"),
   ("Tibt", .ofRuns "2yo 20 1 10 4 13 1 10 1 f 1 7 4 2 6ct 4"),
   ("Tirh", .ofRuns "1u9 2 h 2 3u7 1 c 1 f 1 ri5 a ldy 20 8 a"),
   ("Toto", .ofRuns "jg 1 2ms3 v"),
   ("Yezi", .ofRuns "170 1 e 1 3 1 1s a 1g5y 16 1 3 2 2"),
   ("Yiii", .ofRuns "9hd 2 5 a 2 8 67 1 lxg wd 3 1j hwa 5"),
   ("Zinh", .ofRuns
     (String.join [
     "lr 1 2 1 1 f 3 7 2 1 2 g 1 2 1 i 1 5 1 4 168 2 3ff v kz 1i 1 1 1 5 ek 2 5e w 17o0 g g e ",
     "r3 1 14hu 1a 2 n f4 3 h 8 2 7 u 4 h45u 6o"])),
   ("Zyyy", .ofRuns
     (String.join [
     "0 1t q 6 q 1b 1 c 1 2 1 5 n 1 v 1 ch 3 1 a 1 1 3 1 1 9 1 1 1 6 5 5 2 k 3i 1 6 1 1 1 hp 1 ",
     "5z 1 ec 1 124 1 b9 4 36v c 2 x 1 v 1 a 1 2 1 7 1 b 3 b 1 f h x 1r 12 1 3 2 6 1 r 1 h 15 ",
     "3 4 ii m b l ps 74 hg 2 w 1 2x e8 n 1 o 2 a 1 4 1 1 1 q bm 1 3 1 d 1 d 1 l 1 ep o v 1 1d ",
     "f c 4 4h a 5 2o v 1 534 1s hl4 q 2u 3 r4 1 e 2 gbo a m l 2 c 1 j 1 4 43 1 1 w q 6 q 6 3j ",
     "7 1 7 a 5 b6 d 1f 19 13wj 6y 6 c4 4c 38 1o 6u a 13 2 1q 3 h 8 2 7 u 4 1p 5x k c k c 2f r ",
     "7 3r 2d 1 1z 1 2 2 1 2 2 2 4 1 c 1 1 1 7 1 1t 1 4 2 8 1 7 1 s 1 4 1 5 1 1 3 7 1 9g 2 84 ",
     "2 1e 41d 1w 24 1p jm 18 4 2s c f 2 f 1 f 1 11 a 4u 1k q 1 2 d 18 4 9 n 6 4a rc 4 h 3 d 3 ",
     "3b 4 2n 6 c 4 1 f c 4 1k 8 a 6 14 8 u 2 c 4 2 1q 9g c e 2 d 3 a 5 1k 7 f 2 b 6 9 7 43 1 ",
     "2u gvlz 1 u 2o"])),
   ("Gara", .ofRuns "170 1 e 1 3 1 1fz4 12 3 t 8 2"),
   ("Gukh", .ofRuns "1ut 1 1vve 1m"),
   ("Onao", .ofRuns "1us 2 2m3u 17 4 1"),
   ("Sunu", .ofRuns "lc 2 1 1 9 1 2 1 s 1 3 1 1jf2 y e a"),
   ("Todr", .ofRuns "ld 1 2 1 2 1 9 1 1 1 22 1 1f1d 1g"),
   ("Tutg", .ofRuns "2jq a 35u 1 1 1 ri3 6 57 1 l1q a 1 1 2 1 1 12 1 a 1 1 2 1 1 4 1 a 1 2 8 2")]

/-- The code points of the script with a name of four letters. -/
def script (code : String) : CharSet := scriptTable.setOf (· == code)

/-- The code points used in the script with a name of four letters. -/
def scriptExtension (code : String) : CharSet :=
  ((scriptExtensions.find? (·.1 == code)).map (·.2)).getD (script code)

end ServiceLocation.Unicode
