import ServiceLocation.Text.RunLength

/-!
**Bidirectional classes.**

* `BidiClass.ofChar`: the value of the property `Bidi_Class`; the explicit formatting characters,
  which no label may hold, share the class `formatting`.
-/

namespace ServiceLocation.Unicode

open ServiceLocation.Text

/-- The values of the property `Bidi_Class`. -/
inductive BidiClass where
  | leftToRight
  | rightToLeft
  | arabicLetter
  | europeanNumber
  | europeanSeparator
  | europeanTerminator
  | arabicNumber
  | commonSeparator
  | nonspacingMark
  | boundaryNeutral
  | paragraphSeparator
  | segmentSeparator
  | blank
  | otherNeutral
  | formatting
  deriving Repr, DecidableEq, Inhabited

namespace BidiClass

/-- The classes with their abbreviations. -/
def shortNames : List (String × BidiClass) :=
  [("L", .leftToRight),
   ("R", .rightToLeft),
   ("AL", .arabicLetter),
   ("EN", .europeanNumber),
   ("ES", .europeanSeparator),
   ("ET", .europeanTerminator),
   ("AN", .arabicNumber),
   ("CS", .commonSeparator),
   ("NSM", .nonspacingMark),
   ("BN", .boundaryNeutral),
   ("B", .paragraphSeparator),
   ("S", .segmentSeparator),
   ("WS", .blank),
   ("ON", .otherNeutral)]

/-- The class of an abbreviation. -/
def ofShortName (name : List Char) : BidiClass :=
  ((shortNames.find? fun entry => entry.1.toList == name).map (·.2)).getD .formatting

/-- The class of every code point; unassigned ones count as left to right. -/
def table : Partition BidiClass := Partition.ofText ofShortName
  (String.join [
   "BN.9 S.1 B.1 S.1 WS.1 B.1 BN.e B.3 S.1 WS.1 ON.2 ET.3 ON.5 ES.1 CS.1 ES.1 CS.2 EN.a CS.1 ",
   "ON.6 L.q ON.6 L.q ON.4 BN.6 B.1 BN.q CS.1 ON.1 ET.4 ON.4 L.1 ON.2 BN.1 ON.2 ET.2 EN.2 ON.1 ",
   "L.1 ON.3 EN.1 L.1 ON.5 L.n ON.1 L.v ON.1 L.ch ON.2 L.7 ON.e L.2 ON.e L.5 ON.9 L.1 ON.h ",
   "NSM.34 L.4 ON.2 L.8 ON.1 L.5 ON.2 L.1 ON.1 L.32 ON.1 L.3w NSM.7 L.74 ON.1 L.2 ON.2 ET.1 ",
   "L.1 NSM.19 R.1 NSM.1 R.1 NSM.2 R.1 NSM.2 R.1 NSM.1 L.8 R.r L.4 R.6 L.b AN.6 ON.2 AL.1 ET.2 ",
   "AL.1 CS.1 AL.1 ON.2 NSM.b AL.1c NSM.l AN.a ET.1 AN.2 AL.3 NSM.1 AL.2t NSM.7 AN.1 ON.1 ",
   "NSM.6 AL.2 NSM.2 ON.1 NSM.4 AL.2 EN.a AL.k L.1 AL.2 NSM.1 AL.u NSM.r L.2 AL.2h NSM.b AL.1 ",
   "L.e R.17 NSM.9 R.2 ON.4 R.1 L.2 NSM.1 R.o NSM.4 R.1 NSM.9 R.1 NSM.3 R.1 NSM.5 L.2 R.f L.1 ",
   "R.p NSM.3 L.2 R.1 L.1 AL.b L.5 AL.v L.1 AN.2 L.5 NSM.9 AL.16 NSM.o AN.1 NSM.w L.1j NSM.1 ",
   "L.1 NSM.1 L.4 NSM.8 L.4 NSM.1 L.3 NSM.7 L.a NSM.2 L.t NSM.1 L.1m NSM.1 L.4 NSM.4 L.8 NSM.1 ",
   "L.k NSM.2 L.e ET.2 L.7 ET.1 L.2 NSM.1 L.2 NSM.2 L.1l NSM.1 L.4 NSM.2 L.4 NSM.2 L.2 NSM.3 ",
   "L.3 NSM.1 L.u NSM.2 L.3 NSM.1 L.b NSM.2 L.1l NSM.1 L.4 NSM.5 L.1 NSM.2 L.4 NSM.1 L.k NSM.2 ",
   "L.d ET.1 L.8 NSM.6 L.1 NSM.1 L.1m NSM.1 L.2 NSM.1 L.1 NSM.4 L.8 NSM.1 L.7 NSM.2 L.b NSM.2 ",
   "L.u NSM.1 L.1p NSM.1 L.c NSM.1 L.11 ON.6 ET.1 ON.1 L.5 NSM.1 L.3 NSM.1 L.1j NSM.1 L.1 ",
   "NSM.3 L.5 NSM.3 L.1 NSM.4 L.7 NSM.2 L.b NSM.2 L.k ON.7 L.2 NSM.1 L.1m NSM.1 L.f NSM.2 L.k ",
   "NSM.2 L.s NSM.2 L.1l NSM.2 L.4 NSM.4 L.8 NSM.1 L.k NSM.2 L.t NSM.1 L.20 NSM.1 L.7 NSM.3 ",
   "L.1 NSM.1 L.2i NSM.1 L.2 NSM.7 L.4 ET.1 L.7 NSM.8 L.2q NSM.1 L.2 NSM.9 L.b NSM.7 L.21 ",
   "NSM.2 L.r NSM.1 L.1 NSM.1 L.1 NSM.1 ON.4 L.1f NSM.e L.1 NSM.5 L.1 NSM.2 L.5 NSM.b L.1 ",
   "NSM.10 L.9 NSM.1 L.2u NSM.4 L.1 NSM.6 L.1 NSM.2 L.2 NSM.2 L.p NSM.2 L.4 NSM.3 L.g NSM.4 ",
   "L.d NSM.1 L.2 NSM.2 L.6 NSM.1 L.f NSM.1 L.jj NSM.3 L.1c ON.a L.2u ON.1 L.hr WS.1 L.q ON.2 ",
   "L.39 NSM.3 L.t NSM.2 L.u NSM.2 L.u NSM.2 L.1s NSM.2 L.1 NSM.7 L.8 NSM.1 L.2 NSM.b L.7 ET.1 ",
   "L.1 NSM.1 L.i ON.a L.6 ON.b NSM.3 BN.1 NSM.1 L.39 NSM.2 L.y NSM.1 L.3a NSM.3 L.4 NSM.2 L.9 ",
   "NSM.1 L.6 NSM.3 L.4 ON.1 L.3 ON.2 L.48 ON.y L.n NSM.2 L.2 NSM.1 L.1m NSM.1 L.1 NSM.7 L.1 ",
   "NSM.1 L.1 NSM.1 L.2 NSM.8 L.6 NSM.a L.2 NSM.1 L.1c NSM.v L.1d NSM.4 L.1c NSM.1 L.1 NSM.5 ",
   "L.1 NSM.1 L.5 NSM.1 L.14 NSM.9 L.c NSM.2 L.w NSM.4 L.2 NSM.2 L.1 NSM.3 L.1k NSM.1 L.1 ",
   "NSM.2 L.3 NSM.1 L.1 NSM.3 L.1m NSM.8 L.2 NSM.2 L.48 NSM.3 L.1 NSM.d L.1 NSM.7 L.4 NSM.1 ",
   "L.6 NSM.1 L.3 NSM.2 L.5i NSM.1s L.cd ON.1 L.1 ON.3 L.b ON.3 L.d ON.3 L.d ON.3 L.d ON.2 L.1 ",
   "WS.b BN.3 L.1 R.1 ON.o WS.1 B.1 LRE.1 RLE.1 PDF.1 LRO.1 RLO.1 CS.1 ET.5 ON.f CS.1 ON.q ",
   "WS.1 BN.5 L.1 LRI.1 RLI.1 FSI.1 PDI.1 BN.6 EN.1 L.3 EN.6 ES.2 ON.3 L.1 EN.a ES.2 ON.3 L.h ",
   "ET.x L.f NSM.x L.f ON.2 L.1 ON.4 L.1 ON.2 L.a ON.1 L.1 ON.3 L.5 ON.6 L.1 ON.1 L.1 ON.1 L.1 ",
   "ON.1 L.4 ET.1 L.b ON.2 L.4 ON.5 L.5 ON.4 L.2 ON.g L.15 ON.3 L.4 ON.3m ES.1 ET.1 ON.82 L.1x ",
   "ON.q L.1 ON.44 L.m ON.b L.l ON.14 EN.k L.26 ON.ci L.1 ON.9f L.74 ON.hg L.2 ON.w L.1 ON.2x ",
   "L.6d ON.6 L.4 NSM.3 L.7 ON.7 L.3j NSM.1 L.2o NSM.w ON.2m L.y ON.q L.1 ON.2h L.c ON.5y L.q ",
   "ON.g WS.1 ON.4 L.3 ON.p L.9 NSM.4 L.2 ON.1 L.5 ON.2 L.5 ON.3 L.2h NSM.2 ON.2 L.3 ON.1 L.2i ",
   "ON.1 L.5g ON.12 L.9 ON.1 L.19 ON.2 L.1d ON.g L.s ON.3 L.1e ON.f L.c ON.4 L.4n ON.4 L.2r ",
   "ON.2 L.v ON.1 L.534 ON.1s L.h3k ON.1j L.92 ON.3 L.2n NSM.4 ON.1 NSM.a ON.2 L.u NSM.2 L.28 ",
   "NSM.2 L.e ON.y L.2u ON.1 L.3d NSM.1 L.3 NSM.1 L.4 NSM.1 L.p NSM.2 L.1 ON.4 NSM.1 L.b ET.2 ",
   "L.1m ON.4 L.24 NSM.2 L.q NSM.i L.d NSM.1 L.12 NSM.8 L.p NSM.b L.1a NSM.3 L.1c NSM.1 L.2 ",
   "NSM.4 L.2 NSM.2 L.13 NSM.1 L.1v NSM.6 L.2 NSM.2 L.2 NSM.2 L.c NSM.1 L.8 NSM.1 L.1b NSM.1 ",
   "L.1f NSM.1 L.1 NSM.3 L.2 NSM.2 L.5 NSM.2 L.1 NSM.1 L.16 NSM.2 L.8 NSM.1 L.37 ON.2 L.3d ",
   "NSM.1 L.2 NSM.1 L.4 NSM.1 L.fn3 R.1 NSM.1 R.a ES.1 R.d L.1 R.5 L.1 R.1 L.1 R.2 L.1 R.2 L.1 ",
   "R.a AL.37 L.g AL.a3 ON.i AL.1s L.2 AL.1i L.7 ON.1 L.w AL.d ON.3 NSM.g ON.a L.6 NSM.g ON.w ",
   "CS.1 ON.1 CS.1 L.1 ON.1 CS.1 ON.9 ET.1 ON.2 ES.2 ON.3 L.1 ON.1 ET.2 ON.1 L.4 AL.5 L.1 ",
   "AL.3r L.2 BN.1 L.1 ON.2 ET.3 ON.5 ES.1 CS.1 ES.1 CS.2 EN.a CS.1 ON.6 L.q ON.6 L.q ON.b ",
   "L.3e ET.2 ON.3 ET.2 L.1 ON.7 L.a ON.5 L.77 ON.1 L.1q ON.25 L.3 ON.d L.3 ON.1 L.2k NSM.1 ",
   "L.6a NSM.1 EN.r L.3e NSM.5 L.w5 R.6 L.2 R.1 L.1 R.18 L.1 R.2 L.3 R.1 L.2 R.n L.1 R.20 L.8 ",
   "R.9 L.1c R.j L.1 R.2 L.5 R.x L.3 ON.1 R.q L.5 R.1 L.1s R.1k L.4 R.k L.2 R.1b NSM.3 L.1 ",
   "NSM.2 L.5 NSM.4 R.4 L.1 R.3 L.1 R.t L.2 NSM.3 L.4 NSM.1 R.9 L.7 R.9 L.7 R.1s L.w R.11 ",
   "NSM.2 L.4 R.c L.9 R.1i L.3 ON.7 R.m L.2 R.r L.5 R.q L.7 R.4 L.c R.7 L.28 R.21 L.1j R.1f ",
   "L.d R.1f L.7 R.6 AL.10 NSM.4 L.8 AN.a L.6 R.12 L.3 NSM.5 ON.1 R.n L.8 R.2 L.5s AN.v L.1 ",
   "R.16 L.1 NSM.2 R.1 L.2 R.2 L.g AL.3 L.1j NSM.4 R.14 L.8 AL.m NSM.b AL.9 L.m R.i NSM.4 R.4 ",
   "L.12 R.s L.k R.n L.a NSM.1 L.1i NSM.f L.b ON.k L.a NSM.1 L.2 NSM.2 L.a NSM.3 L.1d NSM.4 ",
   "L.2 NSM.2 L.7 NSM.1 L.1p NSM.3 L.10 NSM.5 L.1 NSM.8 L.1q NSM.1 L.c NSM.2 L.1g NSM.9 L.a ",
   "NSM.4 L.2 NSM.1 L.2n NSM.3 L.2 NSM.1 L.1 NSM.2 L.6 NSM.1 L.2 NSM.1 L.4d NSM.1 L.3 NSM.8 ",
   "L.l NSM.2 L.1l NSM.2 L.3 NSM.1 L.11 NSM.7 L.3 NSM.5 L.1y NSM.6 L.d NSM.1 L.1 NSM.1 L.1 ",
   "NSM.1 L.e NSM.2 L.2d NSM.8 L.2 NSM.3 L.1 NSM.1 L.n NSM.1 L.2c NSM.6 L.1 NSM.1 L.4 NSM.2 ",
   "L.1 NSM.2 L.6m NSM.4 L.6 NSM.2 L.1 NSM.2 L.r NSM.2 L.2d NSM.8 L.2 NSM.1 L.1 NSM.2 L.v ON.d ",
   "L.1q NSM.1 L.1 NSM.1 L.2 NSM.6 L.1 NSM.1 L.2t NSM.3 L.2 NSM.4 L.1 NSM.5 L.77 NSM.9 L.1 ",
   "NSM.2 L.74 NSM.2 L.1 NSM.1 L.4 NSM.1 L.40 NSM.4 L.2 NSM.2 L.4 NSM.1 L.w NSM.6 L.2 NSM.2 ",
   "L.14 NSM.6 L.2 NSM.4 L.8 NSM.1 L.9 NSM.6 L.2 NSM.3 L.1a NSM.d L.1 NSM.2 L.ba NSM.7 L.1 ",
   "NSM.6 L.2c NSM.m L.2 NSM.7 L.1 NSM.2 L.1 NSM.2 L.3e NSM.6 L.3 NSM.1 L.1 NSM.2 L.1 NSM.7 ",
   "L.1 NSM.1 L.20 NSM.2 L.3 NSM.1 L.1 NSM.1 L.9n NSM.2 L.b NSM.2 L.1g NSM.5 L.5 NSM.1 L.1 ",
   "NSM.1 L.n NSM.1 L.3e ON.8 ET.4 ON.h L.40e NSM.1 L.6 NSM.f L.8ug NSM.c L.3 NSM.3 L.1xc ",
   "NSM.5 L.1n NSM.7 L.t4 NSM.1 L.1r NSM.4 L.27 ON.1 L.1 NSM.1 L.f5k NSM.2 L.1 BN.4 L.318 ",
   "ON.6o EN.a L.6 ON.c4 L.24 NSM.1a L.2 NSM.n L.f4 NSM.3 L.9 BN.8 NSM.8 L.2 NSM.7 L.u NSM.4 ",
   "L.1n ON.2 L.l ON.1u NSM.3 ON.1 L.56 ON.2f L.p0 ON.1 L.1l ON.1 L.1l ON.1 L.1l ON.1 L.1l ",
   "ON.1 L.a EN.1e L.e8 NSM.1j L.4 NSM.1e L.8 NSM.1 L.e NSM.1 L.m NSM.5 L.1 NSM.f L.11s NSM.7 ",
   "L.1 NSM.h L.2 NSM.7 L.1 NSM.2 L.1 NSM.5 L.2s NSM.1 L.4g NSM.7 L.af NSM.1 L.1p NSM.4 L.f ",
   "ET.1 L.do NSM.4 L.72 NSM.2 L.eo R.5h L.2 R.9 NSM.7 L.15 R.1w NSM.7 R.1 L.4 R.a L.4 R.2 ",
   "L.lt AL.1w L.24 AL.1p L.5e AL.4 L.1 AL.r L.1 AL.2 L.1 AL.1 L.2 AL.1 L.1 AL.a L.1 AL.4 L.1 ",
   "AL.1 L.1 AL.1 L.6 AL.1 L.4 AL.1 L.1 AL.1 L.1 AL.1 L.1 AL.3 L.1 AL.2 L.1 AL.1 L.2 AL.1 L.1 ",
   "AL.1 L.1 AL.1 L.1 AL.1 L.1 AL.1 L.1 AL.2 L.1 AL.1 L.2 AL.4 L.1 AL.7 L.1 AL.4 L.1 AL.4 L.1 ",
   "AL.1 L.1 AL.a L.1 AL.h L.5 AL.3 L.1 AL.5 L.1 AL.h L.1g ON.2 L.7i ON.18 L.4 ON.2s L.c ON.f ",
   "L.2 ON.f L.1 ON.f L.1 ON.11 L.a EN.b ON.5 L.v ON.1 L.1m ON.6 L.1p ON.1 L.4y ON.6 L.4a ",
   "ON.rc L.4 ON.h L.3 ON.d L.3 ON.3b L.4 ON.2n L.6 ON.c L.4 ON.1 L.f ON.c L.4 ON.1k L.8 ON.a ",
   "L.6 ON.14 L.8 ON.u L.2 ON.c L.4 ON.2 L.1q ON.9g L.c ON.e L.2 ON.d L.3 ON.a L.5 ON.1k L.7 ",
   "ON.f L.2 ON.b L.6 ON.9 L.7 ON.43 L.1 ON.2k EN.a L.gvlz BN.1 L.u BN.2o L.3k NSM.6o L.47bk"])

/-- The class of a character. -/
def ofChar (c : Char) : BidiClass := table.valueAt .leftToRight c.toNat

end BidiClass

end ServiceLocation.Unicode
