import ServiceLocation.Text.RunLength

/-!
**Joining types.**

* `JoiningType.ofChar`: the value of the property `Joining_Type`.
-/

namespace ServiceLocation.Unicode

open ServiceLocation.Text

/-- The values of the property `Joining_Type`. -/
inductive JoiningType where
  | causing
  | dual
  | left
  | right
  | transparent
  | none
  deriving Repr, DecidableEq, Inhabited

namespace JoiningType

/-- The type of an abbreviation. -/
def ofShortName : List Char → JoiningType
  | ['C'] => causing
  | ['D'] => dual
  | ['L'] => left
  | ['R'] => right
  | ['T'] => transparent
  | _ => none

/-- The type of every code point. -/
def table : Partition JoiningType := Partition.ofText ofShortName
  (String.join [
   "U.4t T.1 U.gi T.34 U.7n T.7 U.7b T.19 U.1 T.1 U.1 T.2 U.1 T.2 U.1 T.1 U.20 T.b U.1 T.1 U.3 ",
   "D.1 U.1 R.4 D.1 R.1 D.1 R.1 D.5 R.4 D.d C.1 D.7 R.1 D.2 T.l U.e D.2 T.1 R.3 U.1 R.3 D.g ",
   "R.i D.12 R.1 D.2 R.9 D.1 R.1 D.1 R.1 D.2 R.2 U.1 R.1 T.7 U.2 T.6 U.2 T.2 U.1 T.4 R.2 U.a ",
   "D.3 U.2 D.1 U.f T.1 R.1 T.1 D.3 R.5 D.4 R.1 D.9 R.1 D.1 R.1 D.1 R.1 D.2 R.1 T.r U.2 R.1 ",
   "D.b R.3 D.f R.2 D.4 R.1 D.1 R.2 D.3 R.2 D.6 U.12 T.b U.p D.x T.9 U.6 C.1 U.2 T.1 U.o T.4 ",
   "U.1 T.9 U.1 T.3 U.1 T.5 U.i R.1 D.5 R.2 D.1 R.1 D.a R.1 D.1 R.3 T.3 U.4 D.1 U.1 D.4 U.1 ",
   "R.1 D.1 R.2 U.5 R.j C.3 D.1 U.2 D.5 R.1 U.8 T.9 D.a R.3 U.1 R.1 D.2 R.2 D.6 R.1 D.f U.1 ",
   "T.o U.1 T.w U.1j T.1 U.1 T.1 U.4 T.8 U.4 T.1 U.3 T.7 U.a T.2 U.t T.1 U.1m T.1 U.4 T.4 U.8 ",
   "T.1 U.k T.2 U.q T.1 U.2 T.2 U.1l T.1 U.4 T.2 U.4 T.2 U.2 T.3 U.3 T.1 U.u T.2 U.3 T.1 U.b ",
   "T.2 U.1l T.1 U.4 T.5 U.1 T.2 U.4 T.1 U.k T.2 U.m T.6 U.1 T.1 U.1m T.1 U.2 T.1 U.1 T.4 U.8 ",
   "T.1 U.7 T.2 U.b T.2 U.u T.1 U.1p T.1 U.c T.1 U.1e T.1 U.3 T.1 U.1j T.1 U.1 T.3 U.5 T.3 U.1 ",
   "T.4 U.7 T.2 U.b T.2 U.t T.1 U.1m T.1 U.2 T.1 U.6 T.1 U.5 T.2 U.k T.2 U.s T.2 U.1l T.2 U.4 ",
   "T.4 U.8 T.1 U.k T.2 U.t T.1 U.20 T.1 U.7 T.3 U.1 T.1 U.2i T.1 U.2 T.7 U.c T.8 U.2q T.1 U.2 ",
   "T.9 U.b T.7 U.21 T.2 U.r T.1 U.1 T.1 U.1 T.1 U.1j T.e U.1 T.5 U.1 T.2 U.5 T.b U.1 T.10 U.9 ",
   "T.1 U.2u T.4 U.1 T.6 U.1 T.2 U.2 T.2 U.p T.2 U.4 T.3 U.g T.4 U.d T.1 U.2 T.2 U.6 T.1 U.f ",
   "T.1 U.jj T.3 U.qa T.3 U.t T.2 U.u T.2 U.u T.2 U.1s T.2 U.1 T.7 U.8 T.1 U.2 T.b U.9 T.1 ",
   "U.15 D.1 U.2 C.1 T.3 U.1 T.1 U.g D.2h U.c T.2 D.y T.1 D.1 U.39 T.3 U.4 T.2 U.9 T.1 U.6 T.3 ",
   "U.63 T.2 U.2 T.1 U.1m T.1 U.1 T.7 U.1 T.1 U.1 T.1 U.2 T.8 U.6 T.a U.2 T.1 U.1c T.v U.1d ",
   "T.4 U.1c T.1 U.1 T.5 U.1 T.1 U.5 T.1 U.14 T.9 U.c T.2 U.w T.4 U.2 T.2 U.1 T.3 U.1k T.1 U.1 ",
   "T.2 U.3 T.1 U.1 T.3 U.1m T.8 U.2 T.2 U.48 T.3 U.1 T.d U.1 T.7 U.4 T.1 U.6 T.1 U.3 T.2 U.5i ",
   "T.1s U.ej T.1 U.1 C.1 T.2 U.q T.5 U.1d T.5 U.5 T.6 U.2o T.x U.2da T.3 U.3x T.1 U.2o T.w ",
   "U.fe T.4 U.2z T.2 U.n9w T.4 U.1 T.a U.w T.2 U.28 T.2 U.7k T.1 U.3 T.1 U.4 T.1 U.p T.2 U.5 ",
   "T.1 U.j D.1e L.1 U.29 T.2 U.q T.i U.d T.1 U.12 T.8 U.p T.b U.1a T.3 U.1c T.1 U.2 T.4 U.2 ",
   "T.2 U.13 T.1 U.1v T.6 U.2 T.2 U.2 T.2 U.c T.1 U.8 T.1 U.1b T.1 U.1f T.1 U.1 T.3 U.2 T.2 ",
   "U.5 T.2 U.1 T.1 U.16 T.2 U.8 T.1 U.6m T.1 U.2 T.1 U.4 T.1 U.fn4 T.1 U.kh T.g U.g T.g U.5r ",
   "T.1 U.6x T.3 U.e9 T.1 U.6a T.1 U.45 T.5 U.1ae T.3 U.1 T.2 U.5 T.4 U.14 T.3 U.4 T.1 U.3k ",
   "D.5 R.1 U.1 R.1 U.1 R.2 U.2 L.1 R.5 D.4 L.1 D.5 R.1 D.3 R.1 U.2 R.1 T.2 U.4 D.4 R.1 U.40 ",
   "D.1 R.1 D.1 R.3 D.3 R.1 D.2 R.1 D.1 R.2 D.1 R.1 U.n R.4 D.2 U.9d L.1 D.x R.1 D.1 T.4 U.1t ",
   "T.5 U.8t T.2 U.l R.1 D.2 U.1j T.4 U.1c D.3 R.1 D.h U.1 T.b D.3 R.1 U.r D.4 R.2 D.c T.4 ",
   "U.16 D.1 U.1 D.2 R.3 U.1 D.1 R.2 D.2 R.1 D.2 U.1 D.1 R.2 D.1 U.4 R.1 D.1 L.1 U.1h T.1 U.1i ",
   "T.f U.15 T.1 U.2 T.2 U.a T.3 U.1d T.4 U.2 T.2 U.7 T.1 U.1p T.3 U.10 T.5 U.1 T.8 U.1q T.1 ",
   "U.c T.2 U.1g T.9 U.a T.4 U.2 T.1 U.2n T.3 U.2 T.1 U.1 T.2 U.6 T.1 U.2 T.1 U.4d T.1 U.3 T.8 ",
   "U.l T.2 U.1l T.2 U.3 T.1 U.11 T.7 U.3 T.5 U.1y T.6 U.d T.1 U.1 T.1 U.1 T.1 U.e T.2 U.2d ",
   "T.8 U.2 T.3 U.1 T.1 U.n T.1 U.2c T.6 U.1 T.1 U.4 T.2 U.1 T.2 U.6m T.4 U.6 T.2 U.1 T.2 U.r ",
   "T.2 U.2d T.8 U.2 T.1 U.1 T.2 U.2y T.1 U.1 T.1 U.2 T.6 U.1 T.1 U.2t T.3 U.2 T.4 U.1 T.5 ",
   "U.77 T.9 U.1 T.2 U.74 T.2 U.1 T.1 U.4 T.1 U.40 T.4 U.2 T.2 U.4 T.1 U.w T.a U.14 T.6 U.2 ",
   "T.4 U.8 T.1 U.9 T.6 U.2 T.3 U.1a T.d U.1 T.2 U.ba T.7 U.1 T.6 U.1 T.1 U.2a T.m U.2 T.7 U.1 ",
   "T.2 U.1 T.2 U.3e T.6 U.3 T.1 U.1 T.2 U.1 T.7 U.1 T.1 U.20 T.2 U.3 T.1 U.1 T.1 U.9n T.2 U.b ",
   "T.2 U.1g T.5 U.5 T.1 U.1 T.1 U.n T.1 U.445 T.h U.6 T.f U.8ug T.c U.3 T.3 U.1xc T.5 U.1n ",
   "T.7 U.t4 T.1 U.1r T.4 U.29 T.1 U.f5k T.2 U.1 T.4 U.3mk T.1a U.2 T.n U.f4 T.3 U.9 T.g U.2 ",
   "T.7 U.u T.4 U.44 T.3 U.1iz T.1j U.4 T.1e U.8 T.1 U.e T.1 U.m T.5 U.1 T.f U.11s T.7 U.1 T.h ",
   "U.2 T.7 U.1 T.2 U.1 T.5 U.2s T.1 U.4g T.7 U.af T.1 U.1p T.4 U.e4 T.4 U.72 T.2 U.kg T.7 ",
   "U.15 D.1w T.8 U.gzat T.1 U.u T.2o U.3k T.6o U.47bk"])

/-- The type of a character. -/
def ofChar (c : Char) : JoiningType := table.valueAt none c.toNat

/-- Whether a character joins with the one after it. -/
def joinsForward (type : JoiningType) : Bool := type == left || type == dual

/-- Whether a character joins with the one before it. -/
def joinsBackward (type : JoiningType) : Bool := type == right || type == dual

end JoiningType

end ServiceLocation.Unicode
