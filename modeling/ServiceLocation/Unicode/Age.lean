import ServiceLocation.Text.RunLength

/-!
**Ages of code points.**

* `ageNames`: the names of the versions in which code points were assigned, in order;
* `ageSet`: the code points that are at least as old as a version.
-/

namespace ServiceLocation.Unicode

open ServiceLocation.Text

/-- The versions, each by its number and by its name, in order. -/
def ageNames : List (List String) :=
  [["1.1", "V1_1"], ["2.0", "V2_0"], ["2.1", "V2_1"], ["3.0", "V3_0"], ["3.1", "V3_1"],
   ["3.2", "V3_2"], ["4.0", "V4_0"], ["4.1", "V4_1"], ["5.0", "V5_0"], ["5.1", "V5_1"],
   ["5.2", "V5_2"], ["6.0", "V6_0"], ["6.1", "V6_1"], ["6.2", "V6_2"], ["6.3", "V6_3"],
   ["7.0", "V7_0"], ["8.0", "V8_0"], ["9.0", "V9_0"], ["10.0", "V10_0"], ["11.0", "V11_0"],
   ["12.0", "V12_0"], ["12.1", "V12_1"], ["13.0", "V13_0"], ["14.0", "V14_0"], ["15.0", "V15_0"],
   ["15.1", "V15_1"], ["16.0", "V16_0"]]

/-- For every code point the number of its version, from `1`; `0` if it is unassigned. -/
def ageTable : Partition Nat := Partition.ofText number36
  (String.join [
   "1.dy 4.4 1.u 4.8 6.1 7.1 4.i 7.3 8.b 9.e 1.2h 4.5 7.2 1.1b 4.1 1.a 4.5 7.h 1.1y 4.9 6.1 ",
   "7.8 8.5 7.3 1.2 4.1 6.d a.4 1.2 a.2 0.2 1.1 9.3 1.1 g.1 0.4 1.7 0.1 1.1 0.1 1.k 0.1 1.18 ",
   "a.1 1.7 4.1 6.2 1.1 4.1 1.1 4.1 1.1 4.1 1.1 4.1 1.i 5.2 6.1 7.5 8.4 4.1 1.c 4.1 1.1u 4.1 ",
   "1.c 4.1 1.15 a.1 4.2 6.2 4.4 1.1h 6.2 1.2 6.2 1.2 6.2 9.1 1.s 4.2 1.8 8.2 1.2 9.6 6.g 9.4 ",
   "a.g b.2 c.2 g.8 0.1 1.12 0.2 1.7 k.1 1.13 k.1 1.1 4.1 0.2 g.2 d.1 0.1 2.h 8.1 2.d 1.a 9.1 ",
   "1.9 2.1 8.3 0.8 1.r 0.4 k.1 1.5 0.b 7.4 d.1 g.1 a.5 8.1 1.1 7.9 a.5 1.1 f.1 o.1 8.1 1.1 ",
   "c.1 1.q a.5 1.j 4.3 7.3 8.6 c.1 1.e 6.2 1.20 4.2 1.5 4.1 1.f 4.1 1.u 7.2 1.a 4.5 7.1 4.e ",
   "0.1 4.u 7.3 4.r 0.2 7.3 8.u a.i 4.1d 6.1 0.e 9.1n 0.2 k.3 b.1a 0.2 b.f 0.1 c.s 0.2 c.1 0.1 ",
   "j.b 0.5 o.v 0.1 o.2 0.5 r.1 o.8 d.1 g.1 d.b g.6 h.2 o.1 i.8 n.a o.b k.1 i.f h.1 d.r g.1 ",
   "b.1 1.3 7.1 1.1h c.2 1.i b.1 c.1 1.5 b.1 c.2 1.p a.2 c.5 g.1 b.2 9.2 8.1 9.2 g.1 1.3 0.1 ",
   "1.8 0.2 1.2 0.2 1.m 0.1 1.7 0.1 1.1 0.3 1.4 0.2 1.1 7.1 1.7 0.2 1.2 0.2 1.3 8.1 0.8 1.1 ",
   "0.4 1.2 0.1 1.5 0.2 1.l b.1 j.2 k.1 0.2 7.1 1.1 7.1 0.1 1.6 0.4 1.2 0.2 1.m 0.1 1.7 0.1 ",
   "1.2 0.1 1.2 0.1 1.2 0.2 1.1 0.1 1.5 0.4 1.2 0.2 1.3 0.3 a.1 0.7 1.4 0.1 1.1 0.7 1.f a.1 ",
   "k.1 0.a 1.3 0.1 1.7 7.1 1.1 0.1 1.3 0.1 1.m 0.1 1.7 0.1 1.2 0.1 1.5 0.2 1.a 0.1 1.3 0.1 ",
   "1.3 0.2 1.1 0.f 1.1 7.3 0.2 1.a d.1 7.1 0.7 h.1 j.6 0.1 1.3 0.1 1.8 0.2 1.2 0.2 1.m 0.1 ",
   "1.7 0.1 1.2 0.1 7.1 1.4 0.2 1.8 a.1 0.2 1.2 0.2 1.3 0.7 n.1 1.2 0.4 1.2 0.1 1.3 a.2 0.2 ",
   "1.b 7.1 c.6 0.a 1.2 0.1 1.6 0.3 1.3 0.1 1.4 0.3 1.2 0.1 1.1 0.1 1.2 0.3 1.2 0.3 1.3 0.3 ",
   "1.8 8.1 1.3 0.4 1.5 0.3 1.3 0.1 1.4 0.2 a.1 0.6 1.1 0.e 8.1 1.c 7.8 0.5 g.1 1.3 k.1 1.8 ",
   "0.1 1.3 0.1 1.n 0.1 1.a g.1 1.5 0.2 o.1 a.1 1.7 0.1 1.3 0.1 1.4 0.7 1.2 0.1 a.2 h.1 0.2 ",
   "o.1 0.2 1.2 a.2 0.2 1.a 0.7 l.1 a.8 i.1 g.1 1.2 k.1 1.8 0.1 1.3 0.1 1.n 0.1 1.a 0.1 1.5 ",
   "0.2 7.2 1.7 0.1 1.3 0.1 1.4 0.7 1.2 0.6 o.1 1.1 0.1 1.2 9.2 0.2 1.a 0.1 9.2 p.1 0.c j.1 ",
   "g.1 1.2 n.1 1.8 0.1 1.3 0.1 1.n c.1 1.g c.1 j.2 a.1 1.6 a.1 0.1 1.3 0.1 1.4 c.1 i.1 0.4 ",
   "i.3 1.1 i.7 h.1 1.2 a.2 0.2 1.a a.6 i.3 a.7 0.1 n.1 4.2 0.1 4.i 0.3 4.o 0.1 4.9 0.1 4.1 ",
   "0.2 4.7 0.3 4.1 0.4 4.6 0.1 4.1 0.1 4.8 0.6 g.a 0.2 4.3 0.c 1.1m 0.4 1.t 0.11 1.2 0.1 1.1 ",
   "0.1 l.1 1.2 l.1 1.1 0.1 l.1 1.1 l.6 1.4 l.1 1.7 l.1 1.3 0.1 1.1 0.1 1.1 l.2 1.2 l.1 1.d ",
   "l.1 1.3 0.2 1.5 0.1 1.1 0.1 1.6 p.1 0.1 1.a 0.2 1.2 d.2 0.w 2.20 0.1 2.x 4.1 a.2 0.4 2.r ",
   "c.4 2.6 4.1 2.1 0.1 2.l 4.3 2.7 4.1 2.1 4.3 0.1 4.f 0.1 a.1 4.1 8.2 a.3 b.4 c.2 0.11 4.y ",
   "a.1 4.5 a.1 4.2 a.1 4.7 a.3 4.4 a.6 4.q a.1s b.4 a.2 1.12 0.1 d.1 0.5 d.1 0.2 1.13 6.2 8.2 ",
   "1.1 8.1 d.3 1.2i b.5 1.1w b.5 1.2a b.6 4.7 8.1 4.1r 8.1 4.1 0.1 4.4 0.2 4.7 0.1 4.1 0.1 ",
   "4.4 0.2 4.13 8.1 4.1 0.1 4.4 0.2 4.v 8.1 4.1 0.1 4.4 0.2 4.7 0.1 4.1 0.1 4.4 0.2 4.7 8.1 ",
   "4.7 0.1 4.n 8.1 4.v 8.1 4.1 0.1 4.4 0.2 4.7 8.1 4.13 8.1 4.j 0.2 c.2 8.2 4.s 0.3 8.q 0.6 ",
   "4.2d h.1 0.2 h.6 0.2 b.1 4.hi b.9 4.t 0.3 4.29 g.8 0.7 6.d o.1 6.7 o.1 0.9 o.1 6.n 0.9 6.k ",
   "0.c 6.d 0.1 6.3 0.1 6.2 0.c 4.2l 7.1 0.2 4.a 0.6 7.a 0.6 4.f o.1 4.a 0.6 4.2g k.1 0.7 4.16 ",
   "a.1 0.5 b.1y 0.a 7.t g.2 0.1 7.c 0.4 7.c 0.4 7.1 0.3 7.16 0.2 7.5 0.b 8.16 b.2 0.4 8.q 0.6 ",
   "8.a b.1 0.3 8.2 7.w 8.s 0.2 8.2 b.1r 0.1 b.t 0.2 b.b 0.6 b.a 0.6 b.e 0.2 g.f n.2 o.e 0.1d ",
   "9.24 o.1 0.1 r.2 9.19 o.2 r.1 a.17 d.3 a.c d.6 c.1g 0.8 c.4 a.1k 0.3 a.f 0.3 a.1f i.9 r.2 ",
   "0.5 k.17 0.2 k.3 d.8 0.8 b.z d.4 j.1 g.2 l.1 0.5 7.30 8.2g 9.7 a.s g.f j.4 o.1 i.1 c.1 b.1 ",
   "9.2 1.4b 2.1 a.4 1.2i a.6 1.m 0.2 1.6 0.2 1.12 0.2 1.6 0.2 1.8 0.1 1.1 0.1 1.1 0.1 1.1 0.1 ",
   "1.v 0.2 1.1h 0.1 1.f 0.1 1.e 0.2 1.6 0.1 1.j 0.2 1.3 0.1 1.9 0.1 1.1b 4.1 1.n 6.1 4.6 6.5 ",
   "7.2 8.2 6.1 8.7 6.5 a.1 0.1 f.4 1.7 6.1 0.2 1.r 0.1 8.5 c.8 0.3 1.b 2.1 3.1 4.3 6.2 8.4 ",
   "b.3 c.1 e.1 g.3 h.1 j.1 o.1 0.f 1.i 4.2 6.7 8.1 9.4 a.1 0.f 1.1l 4.2 7.1 8.1 6.f 8.1 9.2 ",
   "a.1 b.3 1.1c 4.1 9.1 a.4 b.1 h.2 0.4 1.2j 4.9 6.c 1.6q 6.e 1.1 4.1 1.3d 4.1 6.1 4.u 6.1g ",
   "7.2 8.b 9.c b.1 c.b g.7 i.4 j.1 1.11 4.2 r.3 0.m 1.b 0.l 1.3v 6.k 7.1 1.46 6.a 1.28 4.8 ",
   "6.8 1.k 7.2 6.2 8.1 4.1 1.2e 4.2 6.c 8.2 6.a 7.8 8.b a.1 b.2 7.2 8.g 9.1 a.a b.3 a.4 b.a ",
   "c.1 b.j c.1 b.1 c.4 b.o g.1 1.4 c.1 1.4 c.2 1.s c.1 1.z c.1 1.1 c.1 1.4 c.3 1.1 b.1 1.7 ",
   "c.2 1.7 6.e 1.v c.3 1.o c.1 1.e c.1 8.7 9.4 d.1 a.1 d.1 c.2 6.s a.4 6.g 4.74 6.e8 7.e 8.6 ",
   "9.7 a.5 9.4 a.15 g.3 a.5 b.5 g.q 0.2 g.w 0.1 n.1 g.y k.3 g.c l.1 g.8 j.1 k.p h.4 k.f l.1 ",
   "8.1b o.1 8.1b o.1 9.d a.3 b.1 a.3 9.4 a.6 b.2 8.2z b.7 d.2 0.5 8.19 0.1 d.1 0.5 d.1 0.2 ",
   "8.1i d.2 0.7 8.1 c.1 0.e c.1 8.n 0.9 8.7 0.1 8.7 0.1 8.7 0.1 8.7 0.1 8.7 0.1 8.7 0.1 8.7 ",
   "0.1 8.7 0.1 a.w 8.o a.4 8.2 a.j b.1 d.a g.7 i.2 j.5 k.5 l.1 n.3 o.b 0.y 4.q 0.1 4.2h 0.c ",
   "4.5y 0.q 4.c q.4 1.1k 4.3 6.3 4.1 1.1 0.1 1.2c 6.2 0.2 1.6 6.2 1.2m 6.1 0.5 1.14 a.1 j.1 ",
   "k.1 0.1 1.2m 0.1 1.g 4.o c.3 n.5 8.g a.k r.2 0.9 q.1 6.g 1.t 7.2 0.1 1.10 b.c 7.1 6.f 1.s ",
   "7.2 8.1 1.1e 6.f 1.c 7.4 1.1b m.1 1.3b 7.4 1.2r 7.2 1.v 7.1 4.52u n.a 7.1s 1.g4m 8.m a.8 ",
   "b.8 d.1 h.9 j.l k.5 n.d o.3 4.wd 0.3 4.i 6.2 4.g 6.1 4.c 6.1 4.3 6.1 4.1 0.9 b.1c a.8c 0.k ",
   "a.w c.2 a.i d.8 a.s g.6 h.1 d.1 b.2g 0.8 8.n 9.4 a.5 9.2 a.2z c.2 h.1 c.2 d.2 g.c c.a d.1 ",
   "g.3 i.1 k.1 g.2 h.6 k.2 l.6 o.2 l.5 n.4 r.3 0.2 o.2 0.1 o.1 0.1 o.5 r.3 0.l o.3 n.2 g.1 ",
   "d.2 c.1 a.5 8.18 n.1 0.3 b.a 0.6 9.1k 0.8 a.1x i.1 0.8 a.c 0.6 b.s h.2 k.2 a.2c 0.b a.1 ",
   "b.t 0.3 b.26 0.1 b.b 0.4 b.2 g.v 0.1 a.1j 0.9 a.e 0.2 a.a 0.2 a.4 b.s g.4 b.1v 0.o b.5 d.n ",
   "0.a c.6 0.2 c.6 0.2 c.6 0.9 c.7 0.1 c.7 0.1 g.1c h.4 g.2 l.2 n.4 0.4 h.28 b.1a 0.2 b.a 0.6 ",
   "2.8mc 0.c b.n 0.4 b.1d 0.4 2.1kw 1.566 d.2 6.1n b.3 0.2 8.2y 0.12 1.7 0.c 1.5 0.5 4.1 1.p ",
   "0.1 1.5 0.1 1.1 0.1 1.2 0.1 1.2 0.1 1.30 c.g o.1 0.g 1.a5 o.g 1.1s 0.2 1.1i 0.7 o.1 5.w ",
   "1.c 6.1 7.1 o.2 6.g 8.a 0.6 1.4 a.3 g.7 h.2 1.l 6.2 7.2 1.a 0.1 1.j 0.1 1.4 0.4 1.3 6.1 ",
   "1.1 0.1 1.3r 0.2 1.1 0.1 1.2m 6.2 1.2m 0.3 1.6 0.2 1.6 0.2 1.6 0.2 1.3 0.3 1.7 0.1 1.7 0.a ",
   "4.3 3.1 1.3 7.c 0.1 7.q 0.1 7.j 0.1 7.2 0.1 7.f 0.2 7.e 0.y 7.3f 0.5 7.3 0.4 7.19 0.3 7.9 ",
   "8.23 g.2 i.2 0.1 a.c n.1 0.3 g.1 0.1b a.1a 0.3m a.t 0.3 a.1d 0.f g.s 0.4 5.v g.1 5.4 0.9 ",
   "j.3 5.r 0.5 g.17 0.5 7.u 0.1 7.1 8.10 0.4 8.e 0.16 5.12 7.2 5.12 7.28 0.2 7.a 0.6 i.10 0.4 ",
   "i.10 0.4 g.14 0.8 g.1g 0.b g.1 o.b 0.1 o.f 0.1 o.7 0.1 o.2 0.1 o.b 0.1 o.f 0.1 o.7 0.1 o.2 ",
   "0.3 r.1g 0.c g.8n 0.9 g.m 0.a g.8 0.o o.6 0.1 o.16 0.1 o.9 0.1x 7.6 0.2 7.1 0.1 7.18 0.1 ",
   "7.2 0.3 7.1 0.2 7.1 b.m 0.1 b.9 g.1r 0.8 g.9 0.1c h.j 0.1 h.2 0.5 h.5 9.q b.2 0.3 9.1 a.q ",
   "0.5 a.1 0.1s d.1k 0.4 h.2 d.2 h.g 0.2 h.1a 8.4 0.1 8.2 0.5 8.8 0.1 8.3 0.1 8.r k.2 0.2 8.3 ",
   "0.4 8.9 k.1 0.7 8.9 0.7 b.w g.w 0.w g.13 0.4 g.c 0.9 b.1i 0.3 b.t 0.2 b.r 0.5 b.8 g.i 0.7 ",
   "g.4 0.c g.7 0.28 b.21 0.1j h.1f 0.d h.1f 0.7 h.6 k.14 0.8 k.a 0.6 r.12 0.3 r.t 0.8 r.2 ",
   "0.5s b.v 0.1 n.16 0.1 n.3 0.2 n.2 0.g r.3 0.1j r.1 p.3 k.14 0.8 k.16 0.m o.q 0.12 n.s 0.k ",
   "l.n 0.9 c.26 0.4 c.u o.6 0.9 g.1 b.1u o.1 0.a k.1 0.2 d.p 0.7 d.a 0.6 d.1h 0.1 d.e k.3 n.1 ",
   "0.8 g.13 0.9 d.21 h.4 g.1 n.2 d.a g.1 h.5 0.1 g.k 0.b g.i 0.1 g.17 i.1 p.3 0.1q h.7 0.1 ",
   "h.1 0.1 h.4 0.1 h.f 0.1 h.b 0.6 g.1n 0.5 g.a 0.6 h.1 g.3 0.1 g.8 0.2 g.2 0.2 g.m 0.1 g.7 ",
   "0.1 g.2 0.1 g.5 0.1 k.1 g.9 0.2 g.2 0.2 g.3 0.2 h.1 0.6 g.1 0.5 g.7 0.2 g.7 0.3 g.5 0.b ",
   "r.a 0.1 r.1 0.2 r.1 0.1 r.12 0.1 r.a 0.1 r.1 0.2 r.1 0.1 r.4 0.1 r.a 0.1 r.2 0.8 r.2 0.t ",
   "i.2i n.1 i.1 0.1 i.1 k.1 l.1 n.2 0.u g.20 0.8 g.a 0.4m g.1i 0.2 g.i h.k 0.y g.1x 0.b g.a ",
   "0.6 i.d 0.j d.1k l.1 o.1 0.6 d.a 0.6 r.k 0.s h.q k.1 0.2 h.f 0.4 h.g o.7 0.55 k.1o 0.2s ",
   "g.2b 0.c g.1 n.7 0.2 n.1 0.2 n.8 0.1 n.2 0.1 n.u 0.1 n.2 0.2 n.c 0.9 n.a 0.1y l.8 0.2 l.1a ",
   "0.2 l.b 0.r j.20 0.8 j.1g l.2 j.n k.1 j.5 0.d o.g g.1l 0.7 p.a 0.52 r.y 0.e r.a 0.6 i.9 ",
   "0.1 i.19 0.1 i.e 0.a i.t 0.3 i.w 0.2 i.m 0.1 i.e 0.21 j.7 0.1 j.2 0.1 j.18 0.3 j.1 0.1 j.2 ",
   "0.1 j.9 0.8 j.a 0.6 k.6 0.1 k.2 0.1 k.11 0.1 k.2 0.1 k.6 0.7 k.a 0.8m k.p 0.7 p.h 0.1 p.15 ",
   "0.3 p.s r.1 0.2d n.1 0.f l.1e 0.d l.1 9.of g.16 h.1 0.2u 9.2r g.c 0.1 9.4 g.1 0.b h.5g ",
   "0.218 o.2r 0.d b.tr p.1 l.9 p.t 0.a r.32z 0.5 h.g7 0.5a1 r.1m 0.1c6 c.ft 0.7 g.v 0.1 g.a ",
   "0.4 g.2 o.27 0.1 o.a 0.6 g.u 0.2 g.6 0.a g.1y 0.a g.a 0.1 g.7 0.1 g.l 0.5 g.j 0.c0 r.1m ",
   "0.5i k.2j 0.2t d.1x l.6 0.4 l.1 d.1b l.9 0.7 d.h 0.1s i.1 j.1 l.2 n.1 0.b n.2 0.e i.4q5 ",
   "k.5 l.6 0.8 i.kz n.df 0.15 r.1 n.9 0.6w7 o.4 0.1 o.7 0.1 o.2 0.1 c.2 j.7x o.4 0.f p.1 0.t ",
   "l.3 0.2 p.1 0.e l.4 0.8 j.b0 0.1s4 g.2z 0.5 g.d 0.3 g.9 0.7 g.a 0.2 g.8 0.318 r.6y 0.6 ",
   "r.c4 0.24 o.1a 0.2 o.n 0.9 o.38 0.1o 5.6u 0.a 5.13 0.2 a.1 5.50 h.b o.2 0.l 8.1y 0.3e p.k ",
   "0.c k.k 0.c 7.2f 0.9 9.i k.7 0.3r 5.2d 0.1 5.1z 0.1 5.2 0.2 5.1 0.2 5.2 0.2 5.4 0.1 5.c ",
   "0.1 5.1 0.1 5.4 7.1 5.2 0.1 5.1t 0.1 5.4 0.2 5.8 0.1 5.7 0.1 5.s 0.1 5.4 0.1 5.5 0.1 5.1 ",
   "0.3 5.7 0.1 5.9e 8.2 0.2 5.82 9.2 0.2 5.1e h.i4 0.f h.5 0.1 h.f 0.uo o.v 0.6 p.6 0.5x i.7 ",
   "0.1 i.h 0.2 i.7 0.1 i.2 0.1 i.5 0.5 p.1q 0.x p.1 0.34 l.19 0.3 l.e 0.2 l.a 0.4 l.2 0.8w ",
   "o.v 0.h l.1m 0.5 l.1 0.cw p.16 0.5y r.17 0.4 r.1 0.dc o.7 0.1 o.4 0.1 o.2 0.1 o.f 0.1 g.5h ",
   "0.2 g.g 0.15 i.23 l.1 0.4 i.a 0.4 i.2 0.lt k.1w 0.24 l.1p 0.5e d.4 0.1 d.r 0.1 d.2 0.1 d.1 ",
   "0.2 d.1 0.1 d.a 0.1 d.4 0.1 d.1 0.1 d.1 0.6 d.1 0.4 d.1 0.1 d.1 0.1 d.1 0.1 d.3 0.1 d.2 ",
   "0.1 d.1 0.2 d.1 0.1 d.1 0.1 d.1 0.1 d.1 0.1 d.1 0.1 d.2 0.1 d.1 0.2 d.4 0.1 d.7 0.1 d.4 ",
   "0.1 d.4 0.1 d.1 0.1 d.a 0.1 d.h 0.5 d.3 0.1 d.5 0.1 d.h 0.1g d.2 0.7i a.18 0.4 a.2s 0.c ",
   "c.f 0.2 c.e g.1 0.1 c.f 0.1 c.f g.m 0.a b.b g.2 n.3 b.v k.1 c.1 b.1 c.b b.1 c.1 b.1 c.2 ",
   "b.1 c.3 b.1 c.3 b.5 c.8 b.1 c.7 b.1 c.a d.2 l.1 n.3 c.9 b.1 c.1 b.2 c.2 b.1 c.a b.4 c.2 ",
   "b.1 c.a i.i n.1 0.1k c.q b.1 c.2 0.d b.y c.9 i.1 0.4 b.9 0.7 c.2 0.e j.6 0.4a c.x g.c h.3 ",
   "c.6 g.1 c.1y g.1 h.2 c.k g.c c.11 g.1 c.5 g.4 h.5 g.c c.h g.7 h.8 c.1r g.1 c.1 g.1 c.52 ",
   "g.1 c.4 g.2 h.1 c.1q g.2 d.4 g.7 h.5 c.o g.i i.1 g.15 i.1 g.2e c.5 d.1 c.g d.1 c.3 d.1 c.1 ",
   "d.1 c.1 d.1 c.1 d.1 c.3 d.1 c.6 d.2 c.4 d.1 c.1 d.2 c.4 d.1 c.c g.2 h.2 c.b g.1c c.1y g.a ",
   "h.1 i.2 j.2 l.1 n.2 0.4 p.1 o.3 g.d 0.3 g.4 i.3 j.2 k.1 l.1 n.2 0.3 c.38 p.3 0.4 p.5 g.2d ",
   "k.4 p.1 0.6 l.c 0.4 o.1 0.f g.c 0.4 g.1k 0.8 g.a 0.6 g.14 0.8 g.u 0.2 n.2 r.a 0.4 r.2 0.1q ",
   "j.c n.1 l.3 h.9 i.6 j.1 i.8 j.8 i.1 j.2 i.c l.1 i.c j.1 k.3 i.f j.d k.5 l.1 n.1 k.4 n.2 ",
   "o.1 k.1 l.1 k.4 h.5 i.d j.6 k.b n.2 l.6 n.3 l.2 k.a l.6 h.1 k.2 l.8 n.1 o.1 l.3 j.n k.p ",
   "l.2c 0.c k.e 0.2 l.4 n.1 p.3 l.3 o.2 0.3 l.3 n.4 p.2 r.1 0.5 r.1 l.6 n.j o.4 p.3 n.7 o.4 ",
   "p.3 r.1 p.1 n.3 o.3 r.1 0.7 p.2 n.7 o.3 p.2 r.1 0.2 r.1 o.8 p.1 r.1 0.6 o.7 p.2 0.7 n.43 ",
   "0.1 n.1j r.11 n.a 0.sk 2.2 5.wyf n.7 o.2 0.w b.379 o.4 p.1 0.6 c.66 0.2 h.4g2 0.e j.5rl ",
   "0.f q.ha 0.1wi 5.f2 0.15s 2.2 n.3t7 0.5 p.38g 0.17im 2.2 0.1eke 2.2 0.1eke 2.2 0.1eke 2.2 ",
   "0.1eke 2.2 0.1eke 2.2 0.1eke 2.2 0.1eke 2.2 0.1eke 2.2 0.1eke 2.2 0.1eke 2.2 0.1 5.1 0.u ",
   "5.2o 0.3k 7.6o 0.1e6m 2.2t4y"])

/-- The code points of the version with a number and of those before it. -/
def ageSet (number : Nat) : CharSet := ageTable.setOf fun age => 0 < age && age ≤ number

end ServiceLocation.Unicode
