import ServiceLocation.Text.AsciiCase
import ServiceLocation.Text.RunLength

/-!
**Where texts may be broken.**

Three properties say how code points behave at the boundaries of characters as they are perceived,
of words and of sentences.

* `graphemeBreakNames`, `wordBreakNames`, `sentenceBreakNames`: the names of their values, first the
  short one;
* `graphemeBreak`, `wordBreak`, `sentenceBreak`: the code points with a value, by its short name.
-/

namespace ServiceLocation.Unicode

open ServiceLocation.Text

/-- The names of the values of `Grapheme_Cluster_Break`. -/
def graphemeBreakNames : List (List String) :=
  [["CN", "Control"], ["CR"], ["EX", "Extend"], ["L"], ["LF"], ["LV"], ["LVT"], ["PP", "Prepend"],
   ["RI", "Regional_Indicator"], ["SM", "SpacingMark"], ["T"], ["V"], ["ZWJ"]]

/-- The names of the values of `Word_Break`. -/
def wordBreakNames : List (List String) :=
  [["CR"], ["DQ", "Double_Quote"], ["EX", "ExtendNumLet"], ["Extend"], ["FO", "Format"],
   ["HL", "Hebrew_Letter"], ["KA", "Katakana"], ["LE", "ALetter"], ["LF"], ["MB", "MidNumLet"],
   ["ML", "MidLetter"], ["MN", "MidNum"], ["NL", "Newline"], ["NU", "Numeric"],
   ["RI", "Regional_Indicator"], ["SQ", "Single_Quote"], ["WSegSpace"], ["ZWJ"]]

/-- The names of the values of `Sentence_Break`. -/
def sentenceBreakNames : List (List String) :=
  [["AT", "ATerm"], ["CL", "Close"], ["CR"], ["EX", "Extend"], ["FO", "Format"],
   ["LE", "OLetter"], ["LF"], ["LO", "Lower"], ["NU", "Numeric"], ["SC", "SContinue"],
   ["SE", "Sep"], ["SP", "Sp"], ["ST", "STerm"], ["UP", "Upper"]]

/-- For every code point the short name of its `Grapheme_Cluster_Break` in small letters; the
syllables of Hangul have `h`. -/
def graphemeBreakTable : Partition (List Char) := Partition.ofText id
  (String.join [
   "cn.a lf.1 cn.2 cr.1 cn.i x.2n cn.x x.d cn.1 x.gi ex.34 x.7n ex.7 x.7b ex.19 x.1 ex.1 x.1 ",
   "ex.2 x.1 ex.2 x.1 ex.1 x.1k pp.6 x.a ex.b x.1 cn.1 x.1a ex.l x.g ex.1 x.2t ex.7 pp.1 x.1 ",
   "ex.6 x.2 ex.2 x.1 ex.4 x.x pp.1 x.1 ex.1 x.u ex.r x.2j ex.b x.1m ex.9 x.9 ex.1 x.o ex.4 ",
   "x.1 ex.9 x.1 ex.3 x.1 ex.5 x.17 ex.3 x.1g pp.2 x.5 ex.9 x.16 ex.o pp.1 ex.w sm.1 x.1i ex.1 ",
   "sm.1 ex.1 x.1 sm.3 ex.8 sm.4 ex.1 sm.2 x.1 ex.7 x.a ex.2 x.t ex.1 sm.2 x.1k ex.1 x.1 ex.1 ",
   "sm.2 ex.4 x.2 sm.2 x.2 sm.2 ex.1 x.9 ex.1 x.a ex.2 x.q ex.1 x.2 ex.2 sm.1 x.1k ex.1 x.1 ",
   "sm.3 ex.2 x.4 ex.2 x.2 ex.3 x.3 ex.1 x.u ex.2 x.3 ex.1 x.b ex.2 sm.1 x.1k ex.1 x.1 sm.3 ",
   "ex.5 x.1 ex.2 sm.1 x.1 sm.2 ex.1 x.k ex.2 x.m ex.6 x.1 ex.1 sm.2 x.1k ex.1 x.1 ex.2 sm.1 ",
   "ex.4 x.2 sm.2 x.2 sm.2 ex.1 x.7 ex.3 x.a ex.2 x.u ex.1 x.1n ex.1 sm.1 ex.1 sm.2 x.3 sm.3 ",
   "x.1 sm.3 ex.1 x.9 ex.1 x.14 ex.1 sm.3 ex.1 x.1j ex.1 x.1 ex.3 sm.4 x.1 ex.3 x.1 ex.4 x.7 ",
   "ex.2 x.b ex.2 x.t ex.1 sm.2 x.1k ex.1 x.1 sm.1 ex.2 sm.1 ex.1 sm.2 x.1 ex.3 x.1 ex.4 x.7 ",
   "ex.2 x.b ex.2 x.f sm.1 x.c ex.2 sm.2 x.1j ex.2 x.1 ex.1 sm.2 ex.4 x.1 sm.3 x.1 sm.3 ex.1 ",
   "pp.1 x.8 ex.1 x.a ex.2 x.t ex.1 sm.2 x.1y ex.1 x.4 ex.1 sm.2 ex.3 x.1 ex.1 x.1 sm.7 ex.1 ",
   "x.i sm.2 x.1p ex.1 x.1 sm.1 ex.7 x.c ex.8 x.2q ex.1 x.1 sm.1 ex.9 x.b ex.7 x.21 ex.2 x.r ",
   "ex.1 x.1 ex.1 x.1 ex.1 x.4 sm.2 x.1d ex.e sm.1 ex.5 x.1 ex.2 x.5 ex.b x.1 ex.10 x.9 ex.1 ",
   "x.2u ex.4 sm.1 ex.6 x.1 ex.2 sm.2 ex.2 x.n sm.2 ex.2 x.4 ex.3 x.g ex.4 x.d ex.1 x.1 sm.1 ",
   "ex.2 x.6 ex.1 x.f ex.1 x.2q l.2o v.20 t.2g x.9p ex.3 x.qa ex.4 x.s ex.3 x.t ex.2 x.u ex.2 ",
   "x.1s ex.2 sm.1 ex.7 sm.8 ex.1 sm.2 ex.b x.9 ex.1 x.19 ex.3 cn.1 ex.1 x.39 ex.2 x.y ex.1 ",
   "x.3a ex.3 sm.4 ex.2 sm.3 x.4 sm.2 ex.1 sm.6 ex.3 x.63 ex.2 sm.2 ex.1 x.1l sm.1 ex.1 sm.1 ",
   "ex.7 x.1 ex.1 x.1 ex.1 x.2 ex.8 sm.6 ex.a x.2 ex.1 x.1c ex.v x.1d ex.4 sm.1 x.1b ex.a sm.4 ",
   "ex.3 x.12 ex.9 x.c ex.2 sm.1 x.u sm.1 ex.4 sm.2 ex.6 x.1k ex.1 sm.1 ex.2 sm.3 ex.1 sm.1 ",
   "ex.5 x.1c sm.8 ex.8 sm.2 ex.2 x.48 ex.3 x.1 ex.d sm.1 ex.7 x.4 ex.1 x.6 ex.1 x.2 sm.1 ex.2 ",
   "x.5i ex.1s x.ej cn.1 ex.1 zwj.1 cn.2 x.o cn.7 x.1d cn.g x.2o ex.x x.2da ex.3 x.3x ex.1 ",
   "x.2o ex.w x.fe ex.6 x.2x ex.2 x.n9w ex.4 x.1 ex.a x.w ex.2 x.28 ex.2 x.7k ex.1 x.3 ex.1 ",
   "x.4 ex.1 x.n sm.2 ex.2 sm.1 x.4 ex.1 x.2b sm.2 x.1e sm.g ex.2 x.q ex.i x.d ex.1 x.12 ex.8 ",
   "x.p ex.b sm.1 ex.1 x.c l.t x.3 ex.3 sm.1 x.1b ex.1 sm.2 ex.4 sm.2 ex.2 sm.2 ex.1 x.10 ex.1 ",
   "x.1v ex.6 sm.2 ex.2 sm.2 ex.2 x.c ex.1 x.8 ex.1 sm.1 x.1a ex.1 x.1f ex.1 x.1 ex.3 x.2 ex.2 ",
   "x.5 ex.2 x.1 ex.1 x.15 sm.1 ex.2 sm.2 x.5 sm.1 ex.1 x.6k sm.2 ex.1 sm.2 ex.1 sm.2 x.1 sm.1 ",
   "ex.1 x.i h.8mc x.c v.n x.4 t.1d x.6xu ex.1 x.kh ex.g x.g ex.g x.5r cn.1 x.4e ex.2 x.28 ",
   "cn.c x.e9 ex.1 x.6a ex.1 x.45 ex.5 x.1ae ex.3 x.1 ex.2 x.5 ex.4 x.14 ex.3 x.4 ex.1 x.4l ",
   "ex.2 x.fx ex.4 x.1t ex.5 x.8t ex.2 x.27 ex.4 x.1y ex.b x.1d ex.4 x.3e sm.1 ex.1 sm.1 x.1h ",
   "ex.f x.15 ex.1 x.2 ex.2 x.a ex.3 sm.1 x.19 sm.3 ex.4 sm.2 ex.2 x.2 pp.1 x.4 ex.1 x.a pp.1 ",
   "x.1e ex.3 x.10 ex.5 sm.1 ex.8 x.g sm.2 x.18 ex.1 x.c ex.2 sm.1 x.1c sm.3 ex.9 sm.1 ex.1 ",
   "x.1 pp.2 x.5 ex.4 x.1 sm.1 ex.1 x.2k sm.3 ex.3 sm.2 ex.4 x.6 ex.1 x.2 ex.1 x.4d ex.1 sm.3 ",
   "ex.8 x.l ex.2 sm.2 x.1j ex.2 x.1 ex.1 sm.1 ex.1 sm.4 x.2 sm.2 x.2 sm.2 ex.1 x.9 ex.1 x.a ",
   "sm.2 x.2 ex.7 x.3 ex.5 x.1v ex.1 sm.2 ex.6 x.1 ex.1 x.2 ex.1 x.1 ex.3 sm.1 x.1 sm.2 ex.3 ",
   "pp.1 ex.1 x.e ex.2 x.2a sm.3 ex.8 sm.2 ex.3 sm.1 ex.1 x.n ex.1 x.29 ex.1 sm.2 ex.6 sm.1 ",
   "ex.1 sm.2 ex.1 sm.1 ex.2 sm.1 ex.2 x.6j ex.1 sm.2 ex.4 x.2 sm.4 ex.2 sm.1 ex.2 x.r ex.2 ",
   "x.2a sm.3 ex.8 sm.2 ex.1 sm.1 ex.2 x.2y ex.1 sm.1 ex.1 sm.2 ex.8 x.2t ex.3 x.2 ex.4 sm.1 ",
   "ex.5 x.74 sm.3 ex.9 sm.1 ex.2 x.6t ex.1 sm.5 x.1 sm.2 x.2 ex.4 pp.1 sm.1 pp.1 sm.1 ex.1 ",
   "x.3x sm.3 ex.4 x.2 ex.2 sm.4 ex.1 x.3 sm.1 x.s ex.a x.14 ex.6 sm.1 pp.1 ex.4 x.8 ex.1 x.9 ",
   "ex.6 sm.2 ex.3 x.14 pp.6 ex.d sm.1 ex.2 x.b9 sm.1 ex.7 x.1 ex.6 sm.1 ex.1 x.2a ex.m x.1 ",
   "sm.1 ex.7 sm.1 ex.2 sm.1 ex.2 x.3e ex.6 x.3 ex.1 x.1 ex.2 x.1 ex.7 pp.1 ex.1 x.1u sm.5 x.1 ",
   "ex.2 x.1 sm.2 ex.1 sm.1 ex.1 x.9n ex.2 sm.2 x.9 ex.2 pp.1 sm.1 x.1c sm.2 ex.5 x.3 sm.2 ",
   "ex.3 x.n ex.1 x.445 cn.g ex.1 x.6 ex.f x.8ug ex.c sm.3 ex.3 x.1xc ex.5 x.1n ex.7 x.fg v.1 ",
   "x.3 v.4 x.dg ex.1 x.1 sm.1j x.7 ex.4 x.29 ex.1 x.b ex.2 x.f57 ex.2 x.1 cn.4 x.3mk ex.1a ",
   "x.2 ex.n x.f2 ex.5 x.3 ex.6 cn.8 ex.8 x.2 ex.7 x.u ex.4 x.44 ex.3 x.1iz ex.1j x.4 ex.1e ",
   "x.8 ex.1 x.e ex.1 x.m ex.5 x.1 ex.f x.11s ex.7 x.1 ex.h x.2 ex.7 x.1 ex.2 x.1 ex.5 x.2s ",
   "ex.1 x.4g ex.7 x.af ex.1 x.1p ex.4 x.e4 ex.4 x.72 ex.2 x.kg ex.7 x.31 ex.7 x.1p7 ri.q x.e3 ",
   "ex.5 x.gx6o cn.w ex.2o cn.3k ex.6o cn.2s0 x.44jk"])

/-- For every code point the short name of its `Word_Break` in small letters. -/
def wordBreakTable : Partition (List Char) := Partition.ofText id
  (String.join [
   "x.a lf.1 nl.2 cr.1 x.i wsegspace.1 x.1 dq.1 x.4 sq.1 x.4 mn.1 x.1 mb.1 x.1 nu.a ml.1 mn.1 ",
   "x.5 le.q x.4 ex.1 x.1 le.q x.a nl.1 x.10 le.1 x.2 fo.1 x.7 le.1 x.1 ml.1 x.2 le.1 x.5 le.n ",
   "x.1 le.v x.1 le.dc x.6 le.y extend.34 le.5 x.1 le.2 x.2 le.4 mn.1 le.1 x.6 le.1 ml.1 le.3 ",
   "x.1 le.1 x.1 le.k x.1 le.2b x.1 le.3v x.1 extend.7 le.4m x.1 le.12 x.2 le.4 x.1 le.1 ml.1 ",
   "le.15 mn.1 le.1 x.6 extend.19 x.1 extend.1 x.1 extend.2 x.1 extend.2 x.1 extend.1 x.8 hl.r ",
   "x.4 hl.4 le.1 ml.1 x.b fo.6 x.6 mn.2 x.2 extend.b x.1 fo.1 x.3 le.17 extend.l nu.a x.1 ",
   "nu.1 mn.1 x.1 le.2 extend.1 le.2r x.1 le.1 extend.7 fo.1 x.1 extend.6 le.2 extend.2 x.1 ",
   "extend.4 le.2 nu.a le.3 x.2 le.1 x.f fo.1 le.1 extend.1 le.u extend.r x.2 le.2h extend.b ",
   "le.1 x.e nu.a le.x extend.9 le.2 x.2 mn.1 x.1 le.1 x.2 extend.1 x.2 le.m extend.4 le.1 ",
   "extend.9 le.1 extend.3 le.1 extend.5 x.i le.p extend.3 x.4 le.b x.5 le.o x.1 le.6 x.1 fo.2 ",
   "x.5 extend.9 le.16 extend.o fo.1 extend.x le.1i extend.3 le.1 extend.i le.1 extend.7 le.a ",
   "extend.2 x.2 nu.a x.1 le.g extend.3 x.1 le.8 x.2 le.2 x.2 le.m x.1 le.7 x.1 le.1 x.3 le.4 ",
   "x.2 extend.1 le.1 extend.7 x.2 extend.2 x.2 extend.3 le.1 x.8 extend.1 x.4 le.2 x.1 le.3 ",
   "extend.2 x.2 nu.a le.2 x.a le.1 x.1 extend.1 x.2 extend.3 x.1 le.6 x.4 le.2 x.2 le.m x.1 ",
   "le.7 x.1 le.2 x.1 le.2 x.1 le.2 x.2 extend.1 x.1 extend.5 x.4 extend.2 x.2 extend.3 x.3 ",
   "extend.1 x.7 le.4 x.1 le.1 x.7 nu.a extend.2 le.3 extend.1 x.b extend.3 x.1 le.9 x.1 le.3 ",
   "x.1 le.m x.1 le.7 x.1 le.2 x.1 le.5 x.2 extend.1 le.1 extend.8 x.1 extend.3 x.1 extend.3 ",
   "x.2 le.1 x.f le.2 extend.2 x.2 nu.a x.9 le.1 extend.6 x.1 extend.3 x.1 le.8 x.2 le.2 x.2 ",
   "le.m x.1 le.7 x.1 le.2 x.1 le.5 x.2 extend.1 le.1 extend.7 x.2 extend.2 x.2 extend.3 x.7 ",
   "extend.3 x.4 le.2 x.1 le.3 extend.2 x.2 nu.a x.1 le.1 x.g extend.1 le.1 x.1 le.6 x.3 le.3 ",
   "x.1 le.4 x.3 le.2 x.1 le.1 x.1 le.2 x.3 le.2 x.3 le.3 x.3 le.c x.4 extend.5 x.3 extend.3 ",
   "x.1 extend.4 x.2 le.1 x.6 extend.1 x.e nu.a x.g extend.5 le.8 x.1 le.3 x.1 le.n x.1 le.g ",
   "x.2 extend.1 le.1 extend.7 x.1 extend.3 x.1 extend.4 x.7 extend.2 x.1 le.3 x.2 le.1 x.2 ",
   "le.2 extend.2 x.2 nu.a x.g le.1 extend.3 x.1 le.8 x.1 le.3 x.1 le.n x.1 le.a x.1 le.5 x.2 ",
   "extend.1 le.1 extend.7 x.1 extend.3 x.1 extend.4 x.7 extend.2 x.6 le.2 x.1 le.2 extend.2 ",
   "x.2 nu.a x.1 le.2 extend.1 x.c extend.4 le.9 x.1 le.3 x.1 le.15 extend.2 le.1 extend.7 x.1 ",
   "extend.3 x.1 extend.4 le.1 x.5 le.3 extend.1 x.7 le.3 extend.2 x.2 nu.a x.a le.6 x.1 ",
   "extend.3 x.1 le.i x.3 le.o x.1 le.9 x.1 le.1 x.2 le.7 x.3 extend.1 x.4 extend.6 x.1 ",
   "extend.1 x.1 extend.8 x.6 nu.a x.2 extend.2 x.1p extend.1 x.2 extend.7 x.c extend.8 x.1 ",
   "nu.a x.2f extend.1 x.2 extend.9 x.b extend.7 x.1 nu.a x.12 le.1 x.n extend.2 x.6 nu.a x.b ",
   "extend.1 x.1 extend.1 x.1 extend.1 x.4 extend.2 le.8 x.1 le.10 x.4 extend.k x.1 extend.2 ",
   "le.5 extend.b x.1 extend.10 x.9 extend.1 x.2s extend.k x.1 nu.a x.c extend.4 x.4 extend.3 ",
   "x.1 extend.3 x.2 extend.7 x.3 extend.4 x.d extend.c x.1 extend.1 nu.a extend.4 x.2 le.12 ",
   "x.1 le.1 x.5 le.1 x.2 le.17 x.1 le.99 x.1 le.4 x.2 le.7 x.1 le.1 x.1 le.4 x.2 le.15 x.1 ",
   "le.4 x.2 le.x x.1 le.4 x.2 le.7 x.1 le.1 x.1 le.4 x.2 le.f x.1 le.1l x.1 le.4 x.2 le.1v ",
   "x.2 extend.3 x.w le.g x.g le.2e x.2 le.6 x.3 le.h8 x.2 le.h wsegspace.1 le.q x.5 le.23 x.3 ",
   "le.b x.7 le.i extend.4 x.9 le.j extend.3 x.b le.i extend.2 x.c le.d x.1 le.3 x.1 extend.2 ",
   "x.1s extend.w x.9 extend.1 x.2 nu.a x.x extend.3 fo.1 extend.1 nu.a x.6 le.2h x.7 le.5 ",
   "extend.2 le.y extend.1 le.1 x.5 le.1y x.a le.v x.1 extend.c x.4 extend.c x.a nu.a x.3k ",
   "nu.a x.12 le.n extend.5 x.1l extend.a x.1 extend.t x.2 extend.1 nu.a x.6 nu.a x.m extend.v ",
   "x.1d extend.5 le.1b extend.h le.8 x.3 nu.a x.h extend.9 x.c extend.3 le.u extend.d le.2 ",
   "nu.a le.18 extend.e x.c le.10 extend.k x.8 nu.a x.3 le.3 nu.a le.10 x.2 le.b x.5 le.17 x.2 ",
   "le.3 x.g extend.3 x.1 extend.l le.4 extend.1 le.6 extend.1 le.2 extend.3 le.1 x.5 le.5c ",
   "extend.1s le.7q x.2 le.6 x.2 le.12 x.2 le.6 x.2 le.8 x.1 le.1 x.1 le.1 x.1 le.1 x.1 le.v ",
   "x.2 le.1h x.1 le.7 x.1 le.1 x.3 le.3 x.1 le.7 x.3 le.4 x.2 le.6 x.4 le.d x.5 le.3 x.1 le.7 ",
   "x.3 wsegspace.7 x.1 wsegspace.3 x.1 extend.1 zwj.1 fo.2 x.8 mb.2 x.a mb.1 x.2 ml.1 nl.2 ",
   "fo.5 ex.1 x.f ex.2 x.3 mn.1 x.f ex.1 x.a wsegspace.1 fo.5 x.1 fo.a x.1 le.1 x.d le.1 x.g ",
   "le.d x.1f extend.x x.h le.1 x.4 le.1 x.2 le.a x.1 le.1 x.3 le.5 x.6 le.1 x.1 le.1 x.1 le.1 ",
   "x.1 le.4 x.1 le.b x.2 le.4 x.5 le.5 x.4 le.1 x.h le.15 x.ml le.1g x.1ee le.6d x.6 le.4 ",
   "extend.3 le.2 x.c le.12 x.1 le.1 x.5 le.1 x.2 le.1k x.7 le.1 x.f extend.1 le.n x.9 le.7 ",
   "x.1 le.7 x.1 le.7 x.1 le.7 x.1 le.7 x.1 le.7 x.1 le.7 x.1 le.7 x.1 extend.w x.1b le.1 x.cw ",
   "wsegspace.1 x.4 le.1 x.10 extend.6 x.1 ka.5 x.5 le.2 x.2k extend.2 ka.2 x.3 ka.2j x.1 ka.4 ",
   "x.5 le.17 x.1 le.2m x.h le.w x.1c ka.g x.5s ka.1b x.1 ka.2g x.lgo le.wd x.1v le.1a x.2 ",
   "le.7h x.3 le.g nu.a le.2 x.k le.1b extend.4 x.1 extend.a x.1 le.v extend.2 le.28 extend.2 ",
   "x.m le.5i x.2 le.2 x.1 le.1 x.1 le.8 x.l le.g extend.1 le.3 extend.1 le.4 extend.1 le.n ",
   "extend.5 x.4 extend.1 x.j le.1g x.c extend.2 le.1e extend.i x.a nu.a x.6 extend.i le.6 x.3 ",
   "le.1 x.1 le.2 extend.1 nu.a le.s extend.8 x.2 le.n extend.d x.c le.t x.3 extend.4 le.1b ",
   "extend.e x.e le.1 nu.a x.b extend.1 x.a nu.a x.6 le.15 extend.e x.9 le.3 extend.1 le.8 ",
   "extend.2 x.2 nu.a x.x extend.3 x.1e extend.1 x.1 extend.3 x.2 extend.2 x.5 extend.2 x.1 ",
   "extend.1 x.u le.b extend.5 x.2 le.3 extend.2 x.a le.6 x.2 le.6 x.2 le.6 x.9 le.7 x.1 le.7 ",
   "x.1 le.1m x.6 le.37 extend.8 x.1 extend.2 x.2 nu.a x.6 le.8mc x.c le.n x.4 le.1d x.6x0 ",
   "le.7 x.c le.5 x.5 hl.1 extend.1 hl.a x.1 hl.d x.1 hl.5 x.1 hl.1 x.1 hl.2 x.1 hl.2 x.1 hl.a ",
   "le.2q x.x le.a3 x.i le.1s x.2 le.1i x.14 le.c x.4 extend.g mn.1 x.2 ml.1 mn.1 x.b extend.g ",
   "x.3 ex.2 x.o ex.3 mn.1 x.1 mb.1 x.1 mn.1 ml.1 x.q le.5 x.1 le.3r x.2 fo.1 x.7 mb.1 x.4 ",
   "mn.1 x.1 mb.1 x.1 nu.a ml.1 mn.1 x.5 le.q x.4 ex.1 x.1 le.q x.b ka.1k extend.2 le.v x.3 ",
   "le.6 x.2 le.6 x.2 le.6 x.2 le.3 x.s fo.3 x.4 le.c x.1 le.q x.1 le.j x.1 le.2 x.1 le.f x.2 ",
   "le.e x.y le.3f x.1x le.1h x.3s extend.1 x.3m le.t x.3 le.1d x.f extend.1 x.v le.w x.d le.u ",
   "x.5 le.12 extend.5 x.5 le.u x.2 le.10 x.4 le.8 x.1 le.5 x.16 le.4e x.2 nu.a x.6 le.10 x.4 ",
   "le.10 x.4 le.14 x.8 le.1g x.c le.b x.1 le.f x.1 le.7 x.1 le.2 x.1 le.b x.1 le.f x.1 le.7 ",
   "x.1 le.2 x.3 le.1g x.c le.8n x.9 le.m x.a le.8 x.o le.6 x.1 le.16 x.1 le.9 x.1x le.6 x.2 ",
   "le.1 x.1 le.18 x.1 le.2 x.3 le.1 x.2 le.n x.a le.n x.9 le.v x.1t le.j x.1 le.2 x.a le.m ",
   "x.a le.q x.1y le.1k x.6 le.2 x.1s le.1 extend.3 x.1 extend.2 x.5 extend.4 le.4 x.1 le.3 ",
   "x.1 le.t x.2 extend.3 x.4 extend.1 x.w le.t x.3 le.t x.z le.8 x.1 le.s extend.2 x.p le.1i ",
   "x.a le.m x.a le.j x.d le.i x.32 le.21 x.1j le.1f x.d le.1f x.d le.10 extend.4 x.8 nu.a x.6 ",
   "nu.a le.s x.3 extend.5 x.1 le.n x.6y le.16 x.1 extend.2 x.3 le.2 x.g le.3 x.1j extend.4 ",
   "le.t x.a le.1 x.8 le.m extend.b x.v le.i extend.4 x.16 le.l x.r le.n x.9 extend.3 le.1h ",
   "extend.f x.v nu.a extend.1 le.2 extend.2 le.1 x.9 extend.4 le.19 extend.b x.2 fo.1 x.4 ",
   "extend.1 x.a fo.1 x.2 le.p x.7 nu.a x.6 extend.3 le.10 extend.e x.1 nu.a x.4 le.1 extend.2 ",
   "le.1 x.8 le.z extend.1 x.2 le.1 x.9 extend.3 le.1c extend.e le.4 x.4 extend.4 x.1 extend.2 ",
   "nu.a le.1 x.1 le.1 x.z le.i x.1 le.p extend.c x.6 extend.1 le.2 extend.1 x.1q le.7 x.1 ",
   "le.1 x.1 le.4 x.1 le.f x.1 le.a x.7 le.1b extend.c x.5 nu.a x.6 extend.4 x.1 le.8 x.2 le.2 ",
   "x.2 le.m x.1 le.7 x.1 le.2 x.1 le.5 x.1 extend.2 le.1 extend.7 x.2 extend.2 x.2 extend.3 ",
   "x.2 le.1 x.6 extend.1 x.5 le.5 extend.2 x.2 extend.7 x.3 extend.5 x.b le.a x.1 le.1 x.2 ",
   "le.1 x.1 le.12 x.1 le.1 extend.9 x.1 extend.1 x.2 extend.1 x.1 extend.4 x.1 extend.5 le.1 ",
   "extend.1 le.1 x.d extend.2 x.t le.1h extend.i le.4 x.5 nu.a x.4 extend.1 le.3 x.u le.1c ",
   "extend.k le.2 x.1 le.1 x.8 nu.a x.4m le.1b extend.7 x.2 extend.9 x.n le.4 extend.2 x.y ",
   "le.1c extend.h x.3 le.1 x.b nu.a x.12 le.17 extend.d le.1 x.7 nu.a x.6 nu.k x.1l extend.f ",
   "x.4 nu.a x.5i le.18 extend.f x.2t le.1s nu.a x.l le.8 x.2 le.1 x.2 le.8 x.1 le.2 x.1 le.o ",
   "extend.6 x.1 extend.2 x.2 extend.4 le.1 extend.1 le.1 extend.2 x.c nu.a x.1y le.8 x.2 ",
   "le.13 extend.7 x.2 extend.7 le.1 x.1 le.1 extend.1 x.r le.1 extend.a le.14 extend.7 le.1 ",
   "extend.4 x.8 extend.1 x.8 le.1 extend.b le.1a extend.g x.3 le.1 x.i le.21 x.5j le.x x.f ",
   "nu.a x.6 le.9 x.1 le.11 extend.8 x.1 extend.8 le.1 x.f nu.a x.o le.u x.2 extend.m x.1 ",
   "extend.e x.21 le.7 x.1 le.2 x.1 le.12 extend.6 x.3 extend.1 x.1 extend.2 x.1 extend.7 le.1 ",
   "extend.1 x.8 nu.a x.6 le.6 x.1 le.2 x.1 le.w extend.5 x.1 extend.2 x.1 extend.5 le.1 x.7 ",
   "nu.a x.8m le.j extend.4 x.9 extend.2 le.1 extend.1 le.d x.1 le.y extend.7 x.3 extend.5 x.d ",
   "nu.a extend.1 x.2d le.1 x.27 le.pm x.2u le.33 x.h le.5g x.218 le.2p x.f le.ts fo.g ",
   "extend.1 le.6 extend.f x.a le.32z x.5 le.g7 x.5a1 le.u extend.i nu.a x.1c6 le.ft x.7 le.v ",
   "x.1 nu.a x.6 le.27 x.1 nu.a x.6 le.u x.2 extend.5 x.b le.1c extend.7 x.9 le.4 x.c nu.a x.9 ",
   "le.l x.5 le.j x.c0 le.19 x.3 nu.a x.5i le.1s x.3k le.23 x.4 extend.1 le.1 extend.1j x.7 ",
   "extend.4 le.d x.1s le.2 x.1 le.1 extend.1 x.b extend.2 x.cn2 ka.4 x.1 ka.7 x.1 ka.2 x.1 ",
   "ka.1 x.7z ka.3 x.1e ka.1 x.e ka.4 x.23c le.2z x.5 le.d x.3 le.9 x.7 le.a x.3 extend.2 x.1 ",
   "fo.4 x.37w nu.a x.ee extend.1a x.2 extend.n x.f2 extend.5 x.3 extend.6 fo.8 extend.8 x.2 ",
   "extend.7 x.u extend.4 x.44 extend.3 x.cb le.2d x.1 le.1z x.1 le.2 x.2 le.1 x.2 le.2 x.2 ",
   "le.4 x.1 le.c x.1 le.1 x.1 le.7 x.1 le.1t x.1 le.4 x.2 le.8 x.1 le.7 x.1 le.s x.1 le.4 x.1 ",
   "le.5 x.1 le.1 x.3 le.7 x.1 le.9g x.2 le.p x.1 le.p x.1 le.v x.1 le.p x.1 le.v x.1 le.p x.1 ",
   "le.v x.1 le.p x.1 le.v x.1 le.p x.1 le.8 x.2 nu.1e x.e8 extend.1j x.4 extend.1e x.8 ",
   "extend.1 x.e extend.1 x.m extend.5 x.1 extend.f x.uo le.v x.6 le.6 x.5x extend.7 x.1 ",
   "extend.h x.2 extend.7 x.1 extend.2 x.1 extend.5 x.5 le.1q x.x extend.1 x.34 le.19 x.3 ",
   "extend.7 le.7 x.2 nu.a x.4 le.1 x.8x le.u extend.1 x.h le.18 extend.4 nu.a x.d2 le.s ",
   "extend.4 nu.a x.5y le.u extend.2 le.1 nu.a x.dh le.7 x.1 le.4 x.1 le.2 x.1 le.f x.1 le.5h ",
   "x.b extend.7 x.15 le.1w extend.7 le.1 x.4 nu.a x.x2 le.4 x.1 le.r x.1 le.2 x.1 le.1 x.2 ",
   "le.1 x.1 le.a x.1 le.4 x.1 le.1 x.1 le.1 x.6 le.1 x.4 le.1 x.1 le.1 x.1 le.1 x.1 le.3 x.1 ",
   "le.2 x.1 le.1 x.2 le.1 x.1 le.1 x.1 le.1 x.1 le.1 x.1 le.1 x.1 le.2 x.1 le.1 x.2 le.4 x.1 ",
   "le.7 x.1 le.4 x.1 le.4 x.1 le.1 x.1 le.a x.1 le.h x.5 le.3 x.1 le.5 x.1 le.h x.hg le.q x.6 ",
   "le.q x.6 le.q x.2k ri.q x.e3 extend.5 x.1kg nu.a x.gvlz fo.1 x.u extend.2o x.3k extend.6o ",
   "x.47bk"])

/-- For every code point the short name of its `Sentence_Break` in small letters. -/
def sentenceBreakTable : Partition (List Char) := Partition.ofText id
  (String.join [
   "x.9 sp.1 lf.1 sp.2 cr.1 x.i sp.1 st.1 cl.1 x.4 cl.3 x.2 sc.2 at.1 x.1 nu.a sc.1 x.4 st.1 ",
   "x.1 up.q cl.1 x.1 cl.1 x.3 lo.q cl.1 x.1 cl.1 x.7 se.1 x.q sp.1 x.9 lo.1 cl.1 x.1 fo.1 x.7 ",
   "lo.1 x.4 lo.1 cl.1 x.4 up.n x.1 up.7 lo.o x.1 lo.8 up.1 lo.1 up.1 lo.1 up.1 lo.1 up.1 lo.1 ",
   "up.1 lo.1 up.1 lo.1 up.1 lo.1 up.1 lo.1 up.1 lo.1 up.1 lo.1 up.1 lo.1 up.1 lo.1 up.1 lo.1 ",
   "up.1 lo.1 up.1 lo.1 up.1 lo.1 up.1 lo.1 up.1 lo.1 up.1 lo.1 up.1 lo.1 up.1 lo.1 up.1 lo.1 ",
   "up.1 lo.1 up.1 lo.1 up.1 lo.1 up.1 lo.1 up.1 lo.1 up.1 lo.2 up.1 lo.1 up.1 lo.1 up.1 lo.1 ",
   "up.1 lo.1 up.1 lo.1 up.1 lo.1 up.1 lo.1 up.1 lo.2 up.1 lo.1 up.1 lo.1 up.1 lo.1 up.1 lo.1 ",
   "up.1 lo.1 up.1 lo.1 up.1 lo.1 up.1 lo.1 up.1 lo.1 up.1 lo.1 up.1 lo.1 up.1 lo.1 up.1 lo.1 ",
   "up.1 lo.1 up.1 lo.1 up.1 lo.1 up.1 lo.1 up.1 lo.1 up.1 lo.1 up.1 lo.1 up.1 lo.1 up.1 lo.1 ",
   "up.1 lo.1 up.2 lo.1 up.1 lo.1 up.1 lo.3 up.2 lo.1 up.1 lo.1 up.2 lo.1 up.3 lo.2 up.4 lo.1 ",
   "up.2 lo.1 up.3 lo.3 up.2 lo.1 up.2 lo.1 up.1 lo.1 up.1 lo.1 up.2 lo.1 up.1 lo.2 up.1 lo.1 ",
   "up.2 lo.1 up.3 lo.1 up.1 lo.1 up.2 lo.2 le.1 up.1 lo.3 le.4 up.2 lo.1 up.2 lo.1 up.2 lo.1 ",
   "up.1 lo.1 up.1 lo.1 up.1 lo.1 up.1 lo.1 up.1 lo.1 up.1 lo.1 up.1 lo.1 up.1 lo.2 up.1 lo.1 ",
   "up.1 lo.1 up.1 lo.1 up.1 lo.1 up.1 lo.1 up.1 lo.1 up.1 lo.1 up.1 lo.1 up.1 lo.2 up.2 lo.1 ",
   "up.1 lo.1 up.3 lo.1 up.1 lo.1 up.1 lo.1 up.1 lo.1 up.1 lo.1 up.1 lo.1 up.1 lo.1 up.1 lo.1 ",
   "up.1 lo.1 up.1 lo.1 up.1 lo.1 up.1 lo.1 up.1 lo.1 up.1 lo.1 up.1 lo.1 up.1 lo.1 up.1 lo.1 ",
   "up.1 lo.1 up.1 lo.1 up.1 lo.1 up.1 lo.1 up.1 lo.1 up.1 lo.1 up.1 lo.1 up.1 lo.1 up.1 lo.1 ",
   "up.1 lo.1 up.1 lo.1 up.1 lo.1 up.1 lo.7 up.2 lo.1 up.2 lo.2 up.1 lo.1 up.4 lo.1 up.1 lo.1 ",
   "up.1 lo.1 up.1 lo.1 up.1 lo.1x le.1 lo.10 le.7 lo.2 x.4 le.c x.e lo.5 x.7 le.1 x.1 le.1 ",
   "x.h ex.34 up.1 lo.1 up.1 lo.1 le.1 x.1 up.1 lo.1 x.2 lo.4 x.1 up.1 x.6 up.1 x.1 up.3 x.1 ",
   "up.1 x.1 up.2 lo.1 up.h x.1 up.9 lo.z up.1 lo.2 up.3 lo.3 up.1 lo.1 up.1 lo.1 up.1 lo.1 ",
   "up.1 lo.1 up.1 lo.1 up.1 lo.1 up.1 lo.1 up.1 lo.1 up.1 lo.1 up.1 lo.1 up.1 lo.1 up.1 lo.5 ",
   "up.1 lo.1 x.1 up.1 lo.1 up.2 lo.2 up.1f lo.1c up.1 lo.1 up.1 lo.1 up.1 lo.1 up.1 lo.1 up.1 ",
   "lo.1 up.1 lo.1 up.1 lo.1 up.1 lo.1 up.1 lo.1 up.1 lo.1 up.1 lo.1 up.1 lo.1 up.1 lo.1 up.1 ",
   "lo.1 up.1 lo.1 up.1 lo.1 up.1 lo.1 x.1 ex.7 up.1 lo.1 up.1 lo.1 up.1 lo.1 up.1 lo.1 up.1 ",
   "lo.1 up.1 lo.1 up.1 lo.1 up.1 lo.1 up.1 lo.1 up.1 lo.1 up.1 lo.1 up.1 lo.1 up.1 lo.1 up.1 ",
   "lo.1 up.1 lo.1 up.1 lo.1 up.1 lo.1 up.1 lo.1 up.1 lo.1 up.1 lo.1 up.1 lo.1 up.1 lo.1 up.1 ",
   "lo.1 up.1 lo.1 up.1 lo.1 up.1 lo.1 up.1 lo.1 up.2 lo.1 up.1 lo.1 up.1 lo.1 up.1 lo.1 up.1 ",
   "lo.1 up.1 lo.1 up.1 lo.2 up.1 lo.1 up.1 lo.1 up.1 lo.1 up.1 lo.1 up.1 lo.1 up.1 lo.1 up.1 ",
   "lo.1 up.1 lo.1 up.1 lo.1 up.1 lo.1 up.1 lo.1 up.1 lo.1 up.1 lo.1 up.1 lo.1 up.1 lo.1 up.1 ",
   "lo.1 up.1 lo.1 up.1 lo.1 up.1 lo.1 up.1 lo.1 up.1 lo.1 up.1 lo.1 up.1 lo.1 up.1 lo.1 up.1 ",
   "lo.1 up.1 lo.1 up.1 lo.1 up.1 lo.1 up.1 lo.1 up.1 lo.1 up.1 lo.1 up.1 lo.1 up.1 lo.1 up.1 ",
   "lo.1 up.1 lo.1 up.1 lo.1 up.1 lo.1 up.1 lo.1 up.1 lo.1 up.1 lo.1 up.1 lo.1 up.1 lo.1 up.1 ",
   "lo.1 up.1 lo.1 up.1 lo.1 up.1 lo.1 up.1 lo.1 up.1 lo.1 x.1 up.12 x.2 le.1 x.3 sc.1 x.2 ",
   "lo.15 st.1 x.7 ex.19 x.1 ex.1 x.1 ex.2 x.1 ex.2 x.1 ex.1 x.8 le.r x.4 le.5 x.c fo.6 x.6 ",
   "sc.2 x.2 ex.b x.1 fo.1 st.3 le.17 ex.l nu.a x.1 nu.2 x.1 le.2 ex.1 le.2r st.1 le.1 ex.7 ",
   "fo.1 x.1 ex.6 le.2 ex.2 x.1 ex.4 le.2 nu.a le.3 x.2 le.1 st.3 x.c fo.1 le.1 ex.1 le.u ex.r ",
   "x.2 le.2h ex.b le.1 x.e nu.a le.x ex.9 le.2 x.2 sc.1 st.1 le.1 x.2 ex.1 x.2 le.m ex.4 le.1 ",
   "ex.9 le.1 ex.3 le.1 ex.5 x.9 st.1 x.1 st.1 x.3 st.2 x.1 le.p ex.3 x.4 le.b x.5 le.o x.1 ",
   "le.6 x.1 fo.2 x.5 ex.9 le.16 ex.o fo.1 ex.x le.1i ex.3 le.1 ex.i le.1 ex.7 le.a ex.2 st.2 ",
   "nu.a x.1 le.g ex.3 x.1 le.8 x.2 le.2 x.2 le.m x.1 le.7 x.1 le.1 x.3 le.4 x.2 ex.1 le.1 ",
   "ex.7 x.2 ex.2 x.2 ex.3 le.1 x.8 ex.1 x.4 le.2 x.1 le.3 ex.2 x.2 nu.a le.2 x.a le.1 x.1 ",
   "ex.1 x.2 ex.3 x.1 le.6 x.4 le.2 x.2 le.m x.1 le.7 x.1 le.2 x.1 le.2 x.1 le.2 x.2 ex.1 x.1 ",
   "ex.5 x.4 ex.2 x.2 ex.3 x.3 ex.1 x.7 le.4 x.1 le.1 x.7 nu.a ex.2 le.3 ex.1 x.b ex.3 x.1 ",
   "le.9 x.1 le.3 x.1 le.m x.1 le.7 x.1 le.2 x.1 le.5 x.2 ex.1 le.1 ex.8 x.1 ex.3 x.1 ex.3 x.2 ",
   "le.1 x.f le.2 ex.2 x.2 nu.a x.9 le.1 ex.6 x.1 ex.3 x.1 le.8 x.2 le.2 x.2 le.m x.1 le.7 x.1 ",
   "le.2 x.1 le.5 x.2 ex.1 le.1 ex.7 x.2 ex.2 x.2 ex.3 x.7 ex.3 x.4 le.2 x.1 le.3 ex.2 x.2 ",
   "nu.a x.1 le.1 x.g ex.1 le.1 x.1 le.6 x.3 le.3 x.1 le.4 x.3 le.2 x.1 le.1 x.1 le.2 x.3 le.2 ",
   "x.3 le.3 x.3 le.c x.4 ex.5 x.3 ex.3 x.1 ex.4 x.2 le.1 x.6 ex.1 x.e nu.a x.g ex.5 le.8 x.1 ",
   "le.3 x.1 le.n x.1 le.g x.2 ex.1 le.1 ex.7 x.1 ex.3 x.1 ex.4 x.7 ex.2 x.1 le.3 x.2 le.1 x.2 ",
   "le.2 ex.2 x.2 nu.a x.g le.1 ex.3 x.1 le.8 x.1 le.3 x.1 le.n x.1 le.a x.1 le.5 x.2 ex.1 ",
   "le.1 ex.7 x.1 ex.3 x.1 ex.4 x.7 ex.2 x.6 le.2 x.1 le.2 ex.2 x.2 nu.a x.1 le.2 ex.1 x.c ",
   "ex.4 le.9 x.1 le.3 x.1 le.15 ex.2 le.1 ex.7 x.1 ex.3 x.1 ex.4 le.1 x.5 le.3 ex.1 x.7 le.3 ",
   "ex.2 x.2 nu.a x.a le.6 x.1 ex.3 x.1 le.i x.3 le.o x.1 le.9 x.1 le.1 x.2 le.7 x.3 ex.1 x.4 ",
   "ex.6 x.1 ex.1 x.1 ex.8 x.6 nu.a x.2 ex.2 x.d le.1c ex.1 le.2 ex.7 x.5 le.7 ex.8 x.1 nu.a ",
   "x.13 le.2 x.1 le.1 x.1 le.5 x.1 le.o x.1 le.1 x.1 le.a ex.1 le.2 ex.9 le.1 x.2 le.5 x.1 ",
   "le.1 x.1 ex.7 x.1 nu.a x.2 le.4 x.w le.1 x.n ex.2 x.6 nu.a x.b ex.1 x.1 ex.1 x.1 ex.1 cl.4 ",
   "ex.2 le.8 x.1 le.10 x.4 ex.k x.1 ex.2 le.5 ex.b x.1 ex.10 x.9 ex.1 x.1l le.17 ex.k le.1 ",
   "nu.a st.2 x.4 le.6 ex.4 le.4 ex.3 le.1 ex.3 le.2 ex.7 le.3 ex.4 le.d ex.c le.1 ex.1 nu.a ",
   "ex.4 x.2 up.12 x.1 up.1 x.5 up.1 x.2 le.17 x.1 lo.1 le.98 x.1 le.4 x.2 le.7 x.1 le.1 x.1 ",
   "le.4 x.2 le.15 x.1 le.4 x.2 le.x x.1 le.4 x.2 le.7 x.1 le.1 x.1 le.4 x.2 le.f x.1 le.1l ",
   "x.1 le.4 x.2 le.1v x.2 ex.3 x.2 st.1 x.4 st.2 x.n le.g x.g up.2e x.2 lo.6 x.3 le.h8 x.1 ",
   "st.1 le.h sp.1 le.q cl.2 x.3 le.23 x.3 le.b x.7 le.i ex.4 x.9 le.j ex.3 st.2 x.9 le.i ex.2 ",
   "x.c le.d x.1 le.3 x.1 ex.2 x.c le.1g ex.w st.2 x.1 le.1 x.4 le.1 ex.1 x.2 nu.a x.o sc.1 ",
   "st.1 x.4 sc.1 st.1 x.1 ex.3 fo.1 ex.1 nu.a x.6 le.2h x.7 le.5 ex.2 le.y ex.1 le.1 x.5 ",
   "le.1y x.a le.v x.1 ex.c x.4 ex.c x.8 st.2 nu.a le.u x.2 le.5 x.b le.18 x.4 le.q x.6 nu.a ",
   "x.12 le.n ex.5 x.4 le.1h ex.a x.1 ex.t x.2 ex.1 nu.a x.6 nu.a x.d le.1 st.4 x.4 ex.v x.1d ",
   "ex.5 le.1b ex.h le.8 x.1 st.2 nu.a st.2 x.2 st.2 x.b ex.9 x.9 st.3 ex.3 le.u ex.d le.2 ",
   "nu.a le.18 ex.e x.c le.10 ex.k x.3 st.2 x.3 nu.a x.3 le.3 nu.a le.10 st.2 lo.9 up.1 lo.1 ",
   "x.5 le.17 x.2 le.3 x.g ex.3 x.1 ex.l le.4 ex.1 le.6 ex.1 le.2 ex.3 le.1 x.5 lo.5c ex.1s ",
   "up.1 lo.1 up.1 lo.1 up.1 lo.1 up.1 lo.1 up.1 lo.1 up.1 lo.1 up.1 lo.1 up.1 lo.1 up.1 lo.1 ",
   "up.1 lo.1 up.1 lo.1 up.1 lo.1 up.1 lo.1 up.1 lo.1 up.1 lo.1 up.1 lo.1 up.1 lo.1 up.1 lo.1 ",
   "up.1 lo.1 up.1 lo.1 up.1 lo.1 up.1 lo.1 up.1 lo.1 up.1 lo.1 up.1 lo.1 up.1 lo.1 up.1 lo.1 ",
   "up.1 lo.1 up.1 lo.1 up.1 lo.1 up.1 lo.1 up.1 lo.1 up.1 lo.1 up.1 lo.1 up.1 lo.1 up.1 lo.1 ",
   "up.1 lo.1 up.1 lo.1 up.1 lo.1 up.1 lo.1 up.1 lo.1 up.1 lo.1 up.1 lo.1 up.1 lo.1 up.1 lo.1 ",
   "up.1 lo.1 up.1 lo.1 up.1 lo.1 up.1 lo.1 up.1 lo.1 up.1 lo.1 up.1 lo.1 up.1 lo.1 up.1 lo.1 ",
   "up.1 lo.1 up.1 lo.1 up.1 lo.1 up.1 lo.1 up.1 lo.1 up.1 lo.1 up.1 lo.1 up.1 lo.1 up.1 lo.1 ",
   "up.1 lo.1 up.1 lo.1 up.1 lo.1 up.1 lo.1 up.1 lo.1 up.1 lo.1 up.1 lo.1 up.1 lo.1 up.1 lo.1 ",
   "up.1 lo.1 up.1 lo.1 up.1 lo.9 up.1 lo.1 up.1 lo.1 up.1 lo.1 up.1 lo.1 up.1 lo.1 up.1 lo.1 ",
   "up.1 lo.1 up.1 lo.1 up.1 lo.1 up.1 lo.1 up.1 lo.1 up.1 lo.1 up.1 lo.1 up.1 lo.1 up.1 lo.1 ",
   "up.1 lo.1 up.1 lo.1 up.1 lo.1 up.1 lo.1 up.1 lo.1 up.1 lo.1 up.1 lo.1 up.1 lo.1 up.1 lo.1 ",
   "up.1 lo.1 up.1 lo.1 up.1 lo.1 up.1 lo.1 up.1 lo.1 up.1 lo.1 up.1 lo.1 up.1 lo.1 up.1 lo.1 ",
   "up.1 lo.1 up.1 lo.1 up.1 lo.1 up.1 lo.1 up.1 lo.1 up.1 lo.1 up.1 lo.1 up.1 lo.1 up.1 lo.1 ",
   "up.1 lo.1 up.1 lo.1 up.1 lo.1 up.1 lo.1 up.1 lo.1 up.1 lo.1 up.1 lo.9 up.8 lo.6 x.2 up.6 ",
   "x.2 lo.8 up.8 lo.8 up.8 lo.6 x.2 up.6 x.2 lo.8 x.1 up.1 x.1 up.1 x.1 up.1 x.1 up.1 lo.8 ",
   "up.8 lo.e x.2 lo.8 up.8 lo.8 up.8 lo.8 up.8 lo.5 x.1 lo.2 up.5 x.1 lo.1 x.3 lo.3 x.1 lo.2 ",
   "up.5 x.3 lo.4 x.2 lo.2 up.4 x.4 lo.8 up.5 x.5 lo.3 x.1 lo.2 up.5 x.3 sp.b fo.1 ex.2 fo.2 ",
   "x.3 sc.2 x.3 cl.8 x.4 at.1 x.3 se.2 fo.5 sp.1 x.9 cl.2 x.1 st.2 x.7 cl.2 st.3 x.l sp.1 ",
   "fo.5 x.1 fo.a x.1 lo.1 x.b cl.2 lo.1 x.d cl.2 x.1 lo.d x.1f ex.x x.h up.1 x.4 up.1 x.2 ",
   "lo.1 up.3 lo.2 up.3 lo.1 x.1 up.1 x.3 up.5 x.6 up.1 x.1 up.1 x.1 up.1 x.1 up.4 x.1 lo.1 ",
   "up.4 lo.1 le.4 lo.1 x.2 lo.2 up.2 x.5 up.1 lo.4 x.4 lo.1 x.h up.g lo.g le.3 up.1 lo.1 le.4 ",
   "x.an cl.4 x.t cl.2 x.az up.q lo.q x.hd cl.6 x.7 cl.e x.27 cl.2 x.v cl.a x.b7 cl.m x.1r ",
   "cl.4 x.w cl.2 x.ea up.1c lo.1c up.1 lo.1 up.3 lo.2 up.1 lo.1 up.1 lo.1 up.1 lo.1 up.4 lo.1 ",
   "up.1 lo.2 up.1 lo.8 up.3 lo.1 up.1 lo.1 up.1 lo.1 up.1 lo.1 up.1 lo.1 up.1 lo.1 up.1 lo.1 ",
   "up.1 lo.1 up.1 lo.1 up.1 lo.1 up.1 lo.1 up.1 lo.1 up.1 lo.1 up.1 lo.1 up.1 lo.1 up.1 lo.1 ",
   "up.1 lo.1 up.1 lo.1 up.1 lo.1 up.1 lo.1 up.1 lo.1 up.1 lo.1 up.1 lo.1 up.1 lo.1 up.1 lo.1 ",
   "up.1 lo.1 up.1 lo.1 up.1 lo.1 up.1 lo.1 up.1 lo.1 up.1 lo.1 up.1 lo.1 up.1 lo.1 up.1 lo.1 ",
   "up.1 lo.1 up.1 lo.1 up.1 lo.1 up.1 lo.1 up.1 lo.1 up.1 lo.1 up.1 lo.1 up.1 lo.1 up.1 lo.1 ",
   "up.1 lo.1 up.1 lo.1 up.1 lo.1 up.1 lo.1 up.1 lo.1 up.1 lo.1 up.1 lo.2 x.6 up.1 lo.1 up.1 ",
   "lo.1 ex.3 up.1 lo.1 x.5 st.3 x.4 lo.12 x.1 lo.1 x.5 lo.1 x.2 le.1k x.7 le.1 x.f ex.1 le.n ",
   "x.9 le.7 x.1 le.7 x.1 le.7 x.1 le.7 x.1 le.7 x.1 le.7 x.1 le.7 x.1 le.7 x.1 ex.w cl.e x.e ",
   "cl.2 x.2 cl.a x.4 st.1 le.1 x.c st.1 x.5 cl.1 x.g st.2 cl.8 x.bn sp.1 sc.1 st.1 x.2 le.3 ",
   "cl.a x.2 cl.8 x.1 cl.3 x.1 le.9 ex.6 x.1 le.5 x.2 le.5 x.4 le.2e x.2 ex.2 x.2 le.3 x.1 ",
   "le.2i x.1 le.4 x.5 le.17 x.1 le.2m x.h le.w x.1c le.g x.e8 le.534 x.1s le.h3h x.1v le.1a ",
   "x.1 st.1 le.7h x.1 st.2 le.g nu.a le.2 x.k up.1 lo.1 up.1 lo.1 up.1 lo.1 up.1 lo.1 up.1 ",
   "lo.1 up.1 lo.1 up.1 lo.1 up.1 lo.1 up.1 lo.1 up.1 lo.1 up.1 lo.1 up.1 lo.1 up.1 lo.1 up.1 ",
   "lo.1 up.1 lo.1 up.1 lo.1 up.1 lo.1 up.1 lo.1 up.1 lo.1 up.1 lo.1 up.1 lo.1 up.1 lo.1 up.1 ",
   "lo.1 le.1 ex.4 x.1 ex.a x.1 le.1 up.1 lo.1 up.1 lo.1 up.1 lo.1 up.1 lo.1 up.1 lo.1 up.1 ",
   "lo.1 up.1 lo.1 up.1 lo.1 up.1 lo.1 up.1 lo.1 up.1 lo.1 up.1 lo.1 up.1 lo.1 up.1 lo.3 ex.2 ",
   "le.28 ex.2 x.1 st.1 x.3 st.1 x.v le.9 x.2 up.1 lo.1 up.1 lo.1 up.1 lo.1 up.1 lo.1 up.1 ",
   "lo.1 up.1 lo.1 up.1 lo.3 up.1 lo.1 up.1 lo.1 up.1 lo.1 up.1 lo.1 up.1 lo.1 up.1 lo.1 up.1 ",
   "lo.1 up.1 lo.1 up.1 lo.1 up.1 lo.1 up.1 lo.1 up.1 lo.1 up.1 lo.1 up.1 lo.1 up.1 lo.1 up.1 ",
   "lo.1 up.1 lo.1 up.1 lo.1 up.1 lo.1 up.1 lo.1 up.1 lo.1 up.1 lo.1 up.1 lo.1 up.1 lo.1 up.1 ",
   "lo.1 up.1 lo.1 up.1 lo.1 up.1 lo.1 up.1 lo.1 up.1 lo.1 up.1 lo.a up.1 lo.1 up.1 lo.1 up.2 ",
   "lo.1 up.1 lo.1 up.1 lo.1 up.1 lo.1 up.1 lo.1 le.1 x.2 up.1 lo.1 up.1 lo.1 le.1 up.1 lo.1 ",
   "up.1 lo.3 up.1 lo.1 up.1 lo.1 up.1 lo.1 up.1 lo.1 up.1 lo.1 up.1 lo.1 up.1 lo.1 up.1 lo.1 ",
   "up.1 lo.1 up.1 lo.1 up.5 lo.1 up.5 lo.1 up.1 lo.1 up.1 lo.1 up.1 lo.1 up.1 lo.1 up.1 lo.1 ",
   "up.1 lo.1 up.1 lo.1 up.4 lo.1 up.1 lo.1 up.2 lo.1 x.2 up.1 lo.1 x.1 lo.1 x.1 lo.1 up.1 ",
   "lo.1 up.1 lo.1 up.1 lo.1 up.1 x.l lo.3 up.1 lo.1 le.1 lo.3 le.7 ex.1 le.3 ex.1 le.4 ex.1 ",
   "le.n ex.5 x.4 ex.1 x.j le.1g x.2 st.2 x.8 ex.2 le.1e ex.i x.8 st.2 nu.a x.6 ex.i le.6 x.3 ",
   "le.1 x.1 le.2 ex.1 nu.a le.s ex.8 x.1 st.1 le.n ex.d x.c le.t x.3 ex.4 le.1b ex.e x.7 st.2 ",
   "x.5 le.1 nu.a x.6 le.5 ex.1 le.a nu.a le.5 x.1 le.15 ex.e x.9 le.3 ex.1 le.8 ex.2 x.2 nu.a ",
   "x.3 st.3 le.n x.3 le.1 ex.3 le.1e ex.1 le.1 ex.3 le.2 ex.2 le.5 ex.2 le.1 ex.1 le.1 x.o ",
   "le.3 x.2 le.b ex.5 st.2 le.3 ex.2 x.a le.6 x.2 le.6 x.2 le.6 x.9 le.7 x.1 le.7 x.1 lo.17 ",
   "x.1 lo.e x.6 lo.28 le.z ex.8 st.1 ex.2 x.2 nu.a x.6 le.8mc x.c le.n x.4 le.1d x.6is le.a6 ",
   "x.2 le.2y x.12 lo.7 x.c lo.5 x.5 le.1 ex.1 le.a x.1 le.d x.1 le.5 x.1 le.1 x.1 le.2 x.1 ",
   "le.2 x.1 le.30 x.x le.a3 cl.2 x.g le.1s x.2 le.1i x.14 le.c x.4 ex.g sc.2 st.1 sc.1 x.1 ",
   "st.2 cl.2 x.7 ex.g x.1 sc.2 x.2 cl.g x.2 cl.2 x.7 sc.2 at.1 x.2 sc.1 st.2 sc.1 cl.6 x.4 ",
   "sc.1 x.c le.5 x.1 le.3r x.2 fo.1 x.1 st.1 x.6 cl.2 x.2 sc.2 at.1 x.1 nu.a sc.1 x.4 st.1 ",
   "x.1 up.q cl.1 x.1 cl.1 x.3 lo.q cl.1 x.1 cl.1 x.1 cl.2 st.1 cl.2 sc.1 x.1 le.1k ex.2 le.v ",
   "x.3 le.6 x.2 le.6 x.2 le.6 x.2 le.3 x.s fo.3 x.4 le.c x.1 le.q x.1 le.j x.1 le.2 x.1 le.f ",
   "x.2 le.e x.y le.3f x.1x le.1h x.3s ex.1 x.3m le.t x.3 le.1d x.f ex.1 x.v le.w x.d le.u x.5 ",
   "le.12 ex.5 x.5 le.u x.2 le.10 x.4 le.8 x.1 le.5 x.16 up.14 lo.14 le.26 x.2 nu.a x.6 up.10 ",
   "x.4 lo.10 x.4 le.14 x.8 le.1g x.c up.b x.1 up.f x.1 up.7 x.1 up.2 x.1 lo.b x.1 lo.f x.1 ",
   "lo.7 x.1 lo.2 x.3 le.1g x.c le.8n x.9 le.m x.a le.8 x.o lo.1 le.2 lo.3 x.1 lo.16 x.1 lo.9 ",
   "x.1x le.6 x.2 le.1 x.1 le.18 x.1 le.2 x.3 le.1 x.2 le.n x.a le.n x.9 le.v x.1t le.j x.1 ",
   "le.2 x.a le.m x.a le.q x.1y le.1k x.6 le.2 x.1s le.1 ex.3 x.1 ex.2 x.5 ex.4 le.4 x.1 le.3 ",
   "x.1 le.t x.2 ex.3 x.4 ex.1 x.m st.2 x.8 le.t x.3 le.t x.z le.8 x.1 le.s ex.2 x.p le.1i x.a ",
   "le.m x.a le.j x.d le.i x.32 le.21 x.1j up.1f x.d lo.1f x.d le.10 ex.4 x.8 nu.a x.6 nu.a ",
   "le.6 up.m x.3 ex.5 x.1 le.1 lo.m x.6y le.16 x.1 ex.2 x.3 le.2 x.g le.3 x.1j ex.4 le.t x.a ",
   "le.1 x.8 le.m ex.b x.4 st.5 x.m le.i ex.4 st.4 x.12 le.l x.r le.n x.9 ex.3 le.1h ex.f st.2 ",
   "x.t nu.a ex.1 le.2 ex.2 le.1 x.9 ex.4 le.19 ex.b x.2 fo.1 st.4 ex.1 x.a fo.1 x.2 le.p x.7 ",
   "nu.a x.6 ex.3 le.10 ex.e x.1 nu.a x.1 st.3 le.1 ex.2 le.1 x.8 le.z ex.1 x.2 le.1 x.9 ex.3 ",
   "le.1c ex.e le.4 st.2 x.2 ex.4 st.1 ex.2 nu.a le.1 x.1 le.1 x.1 st.2 x.w le.i x.1 le.p ex.c ",
   "st.2 x.1 st.2 x.1 ex.1 le.2 ex.1 x.1q le.7 x.1 le.1 x.1 le.4 x.1 le.f x.1 le.a st.1 x.6 ",
   "le.1b ex.c x.5 nu.a x.6 ex.4 x.1 le.8 x.2 le.2 x.2 le.m x.1 le.7 x.1 le.2 x.1 le.5 x.1 ",
   "ex.2 le.1 ex.7 x.2 ex.2 x.2 ex.3 x.2 le.1 x.6 ex.1 x.5 le.5 ex.2 x.2 ex.7 x.3 ex.5 x.b ",
   "le.a x.1 le.1 x.2 le.1 x.1 le.12 x.1 le.1 ex.9 x.1 ex.1 x.2 ex.1 x.1 ex.4 x.1 ex.5 le.1 ",
   "ex.1 le.1 st.2 x.b ex.2 x.t le.1h ex.i le.4 st.2 x.3 nu.a x.4 ex.1 le.3 x.u le.1c ex.k ",
   "le.2 x.1 le.1 x.8 nu.a x.4m le.1b ex.7 x.2 ex.9 x.1 st.2 x.5 st.f le.4 ex.2 x.y le.1c ex.h ",
   "st.2 x.1 le.1 x.b nu.a x.12 le.17 ex.d le.1 x.7 nu.a x.6 nu.k x.s le.r x.2 ex.f x.4 nu.a ",
   "x.2 st.3 x.1 le.7 x.55 le.18 ex.f x.2t up.w lo.w nu.a x.l le.8 x.2 le.1 x.2 le.8 x.1 le.2 ",
   "x.1 le.o ex.6 x.1 ex.2 x.2 ex.4 le.1 ex.1 le.1 ex.2 st.1 x.1 st.1 x.9 nu.a x.1y le.8 x.2 ",
   "le.13 ex.7 x.2 ex.7 le.1 x.1 le.1 ex.1 x.r le.1 ex.a le.14 ex.7 le.1 ex.4 x.3 st.2 x.3 ",
   "ex.1 x.8 le.1 ex.b le.1a ex.g x.1 st.2 le.1 x.i le.21 x.5j le.x x.f nu.a x.6 le.9 x.1 ",
   "le.11 ex.8 x.1 ex.8 le.1 st.2 x.d nu.a x.o le.u x.2 ex.m x.1 ex.e x.21 le.7 x.1 le.2 x.1 ",
   "le.12 ex.6 x.3 ex.1 x.1 ex.2 x.1 ex.7 le.1 ex.1 x.8 nu.a x.6 le.6 x.1 le.2 x.1 le.w ex.5 ",
   "x.1 ex.2 x.1 ex.5 le.1 x.7 nu.a x.8m le.j ex.4 st.2 x.7 ex.2 le.1 ex.1 le.d x.1 le.y ex.7 ",
   "x.3 ex.5 st.2 x.b nu.a ex.1 x.2d le.1 x.27 le.pm x.2u le.33 x.h le.5g x.218 le.2p x.f ",
   "le.ts fo.g ex.1 le.6 ex.f x.a le.32z x.5 le.g7 x.5a1 le.u ex.i nu.a x.1c6 le.ft x.7 le.v ",
   "x.1 nu.a x.4 st.2 le.27 x.1 nu.a x.6 le.u x.2 ex.5 st.1 x.a le.1c ex.7 st.2 x.7 le.4 st.1 ",
   "x.b nu.a x.9 le.l x.5 le.j x.c0 le.19 x.1 st.2 nu.a x.5i up.w lo.w x.o st.1 x.2v le.23 x.4 ",
   "ex.1 le.1 ex.1j x.7 ex.4 le.d x.1s le.2 x.1 le.1 ex.1 x.b ex.2 x.e le.4qg x.8 le.ye x.15 ",
   "le.a x.6w7 le.4 x.1 le.7 x.1 le.2 x.1 le.83 x.f le.1 x.t le.3 x.2 le.1 x.e le.4 x.8 le.b0 ",
   "x.1s4 le.2z x.5 le.d x.3 le.9 x.7 le.a x.3 ex.2 st.1 fo.4 x.37w nu.a x.ee ex.1a x.2 ex.n ",
   "x.f2 ex.5 x.3 ex.6 fo.8 ex.8 x.2 ex.7 x.u ex.4 x.44 ex.3 x.cb up.q lo.q up.q lo.7 x.1 lo.i ",
   "up.q lo.q up.1 x.1 up.2 x.2 up.1 x.2 up.2 x.2 up.4 x.1 up.8 lo.4 x.1 lo.1 x.1 lo.7 x.1 ",
   "lo.b up.q lo.q up.2 x.1 up.4 x.2 up.8 x.1 up.7 x.1 lo.q up.2 x.1 up.4 x.1 up.5 x.1 up.1 ",
   "x.3 up.7 x.1 lo.q up.q lo.q up.q lo.q up.q lo.q up.q lo.q up.q lo.q up.q lo.s x.2 up.p x.1 ",
   "lo.p x.1 lo.6 up.p x.1 lo.p x.1 lo.6 up.p x.1 lo.p x.1 lo.6 up.p x.1 lo.p x.1 lo.6 up.p ",
   "x.1 lo.p x.1 lo.6 up.1 lo.1 x.2 nu.1e x.e8 ex.1j x.4 ex.1e x.8 ex.1 x.e ex.1 x.3 st.1 x.i ",
   "ex.5 x.1 ex.f x.uo lo.a le.1 lo.k x.6 lo.6 x.5x ex.7 x.1 ex.h x.2 ex.7 x.1 ex.2 x.1 ex.5 ",
   "x.5 lo.1q x.x ex.1 x.34 le.19 x.3 ex.7 le.7 x.2 nu.a x.4 le.1 x.8x le.u ex.1 x.h le.18 ",
   "ex.4 nu.a x.d2 le.s ex.4 nu.a x.5y le.u ex.2 le.1 nu.a x.dh le.7 x.1 le.4 x.1 le.2 x.1 ",
   "le.f x.1 le.5h x.b ex.7 x.15 up.y lo.y ex.7 le.1 x.4 nu.a x.x2 le.4 x.1 le.r x.1 le.2 x.1 ",
   "le.1 x.2 le.1 x.1 le.a x.1 le.4 x.1 le.1 x.1 le.1 x.6 le.1 x.4 le.1 x.1 le.1 x.1 le.1 x.1 ",
   "le.3 x.1 le.2 x.1 le.1 x.2 le.1 x.1 le.1 x.1 le.1 x.1 le.1 x.1 le.1 x.1 le.2 x.1 le.1 x.2 ",
   "le.4 x.1 le.7 x.1 le.4 x.1 le.4 x.1 le.1 x.1 le.a x.1 le.h x.5 le.3 x.1 le.5 x.1 le.h x.hg ",
   "up.q x.6 up.q x.6 up.q x.hd ex.5 x.hi cl.3 x.12v nu.a x.sm le.wyo x.w le.37e x.6 le.66 x.2 ",
   "le.4g2 x.e le.5rl x.f le.ha x.1wi le.f2 x.15u le.3t7 x.5 le.38g x.f975 fo.1 x.u ex.2o x.3k ",
   "ex.6o x.47bk"])

/-- The syllables of Hangul without a final consonant, one of each `28`. -/
def openSyllables : CharSet := .ofCodes ((List.range 399).map fun index => 0xAC00 + 28 * index)

/-- The code points with a value of `Grapheme_Cluster_Break`, by its short name. -/
def graphemeBreak (value : String) : CharSet :=
  if value = "LV" then openSyllables
  else if value = "LVT" then (graphemeBreakTable.setOf (· == ['h'])).difference openSyllables
  else graphemeBreakTable.setOf (· == lowerAscii value.toList)

/-- The code points with a value of `Word_Break`, by its short name. -/
def wordBreak (value : String) : CharSet := wordBreakTable.setOf (· == lowerAscii value.toList)

/-- The code points with a value of `Sentence_Break`, by its short name. -/
def sentenceBreak (value : String) : CharSet :=
  sentenceBreakTable.setOf (· == lowerAscii value.toList)

end ServiceLocation.Unicode
