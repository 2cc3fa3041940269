import ServiceLocation.Text.RunLength

/-!
**The mapping of characters in domain names.**

Every code point is valid in a label, is left out of it, is replaced by other characters, or is
not allowed at all. The table follows the compatibility processing of internationalised domain
names in its non-transitional form, where the two forms of the small sigma, the sharp s and the
two joiners are valid.

* `Status.ofChar`: the status of a character.
-/

namespace ServiceLocation.Idna

open ServiceLocation.Text

/-- What becomes of a character in a domain name. -/
inductive Status where
  /-- It stays. -/
  | valid
  /-- It is left out. -/
  | ignored
  /-- It may not occur. -/
  | disallowed
  /-- It is replaced by the characters with these code points. -/
  | mapped (codes : List Nat)
  /-- It is replaced by the character that many code points further on. -/
  | raised (distance : Nat)
  /-- It is replaced by the character that many code points further back. -/
  | lowered (distance : Nat)
  deriving Repr, DecidableEq, Inhabited

namespace Status

/-- A status as the table writes it: a letter and numbers in base 36. -/
def read : List Char → Status
  | 'v' :: _ => valid
  | 'i' :: _ => ignored
  | 'm' :: codes => mapped ((codes.splitOn '-').map number36)
  | 's' :: distance => raised (number36 distance)
  | 'n' :: distance => lowered (number36 distance)
  | _ => disallowed

/-- The status of every code point. -/
def table : Partition Status := Partition.ofText read
  (String.join [
   "v.1t sw.q v.11 d.w mw.1 v.7 mw-lk.1 v.1 m2p.1 v.2 i.1 v.1 mw-lg.1 v.2 n3k.2 mw-ld.1 mqk.1 ",
   "v.2 mw-mf.1 m1d.1 m33.1 v.1 m1d-6dg-1g.1 m1d-6dg-1e.1 m1f-6dg-1g.1 v.1 sw.n v.1 sw.7 v.x ",
   "m75.1 v.1 m77.1 v.1 m79.1 v.1 m7b.1 v.1 m7d.1 v.1 m7f.1 v.1 m7h.1 v.1 m7j.1 v.1 m7l.1 v.1 ",
   "m7n.1 v.1 m7p.1 v.1 m7r.1 v.1 m7t.1 v.1 m7v.1 v.1 m7x.1 v.1 m7z.1 v.1 m81.1 v.1 m83.1 v.1 ",
   "m85.1 v.1 m87.1 v.1 m89.1 v.1 m8b.1 v.1 m8d.1 v.1 m8f.1 v.1 m2x-lj.1 v.1 m2x-2y.2 m8l.1 ",
   "v.1 m8n.1 v.2 m8q.1 v.1 m8s.1 v.1 m8u.1 v.1 m30-53.2 m8y.1 v.1 m90.1 v.1 m92.1 v.1 m94.1 ",
   "v.1 mjg-32.1 m97.1 v.1 m99.1 v.1 m9b.1 v.1 m9d.1 v.1 m9f.1 v.1 m9h.1 v.1 m9j.1 v.1 m9l.1 ",
   "v.1 m9n.1 v.1 m9p.1 v.1 m9r.1 v.1 m9t.1 v.1 m9v.1 v.1 m9x.1 v.1 m9z.1 v.1 ma1.1 v.1 ma3.1 ",
   "v.1 ma5.1 v.1 ma7.1 v.1 ma9.1 v.1 mab.1 v.1 mad.1 v.1 maf.1 v.1 m73.1 mai.1 v.1 mak.1 v.1 ",
   "mam.1 v.1 m37.1 v.1 mgj.1 mar.1 v.1 mat.1 v.1 mgk.1 maw.1 v.1 s5p.2 mb0.1 v.2 md9.1 mgp.1 ",
   "mgr.1 mb6.1 v.1 mgw.1 mgz.1 v.1 mh5.1 mh4.1 mbd.1 v.3 mhb.1 mhe.1 v.1 mhh.1 mbl.1 v.1 ",
   "mbn.1 v.1 mbp.1 v.1 mhs.1 mbs.1 v.1 mhv.1 v.2 mbx.1 v.1 mi0.1 mc0.1 v.1 s61.2 mc4.1 v.1 ",
   "mc6.1 v.1 mia.1 mc9.1 v.3 mcd.1 v.7 m2s-am.3 m30-2y.3 m32-2y.3 mcu.1 v.1 mcw.1 v.1 mcy.1 ",
   "v.1 md0.1 v.1 md2.1 v.1 md4.1 v.1 md6.1 v.1 md8.1 v.2 mdb.1 v.1 mdd.1 v.1 mdf.1 v.1 mdh.1 ",
   "v.1 mdj.1 v.1 mdl.1 v.1 mdn.1 v.1 mdp.1 v.1 mdr.1 v.2 m2s-3e.3 mdx.1 v.1 mb9.1 mcf.1 me1.1 ",
   "v.1 me3.1 v.1 me5.1 v.1 me7.1 v.1 me9.1 v.1 meb.1 v.1 med.1 v.1 mef.1 v.1 meh.1 v.1 mej.1 ",
   "v.1 mel.1 v.1 men.1 v.1 mep.1 v.1 mer.1 v.1 met.1 v.1 mev.1 v.1 mex.1 v.1 mez.1 v.1 mf1.1 ",
   "v.1 mf3.1 v.1 mbi.1 v.1 mf7.1 v.1 mf9.1 v.1 mfb.1 v.1 mfd.1 v.1 mff.1 v.1 mfh.1 v.1 mfj.1 ",
   "v.1 mfl.1 v.1 mfn.1 v.7 m8rp.1 mfw.1 v.1 mbe.1 m8rq.1 v.2 mg2.1 v.1 mao.1 mi1.1 mi4.1 ",
   "mg7.1 v.1 mg9.1 v.1 mgb.1 v.1 mgd.1 v.1 mgf.1 v.2p m2w.1 mh2.1 m2y.1 m36.1 mhl.1 mhn.1 ",
   "mht.1 m3b.1 m3d.1 v.v mw-li.1 mw-lj.1 mw-lm.1 mw-mg.1 mw-lf.1 mw-ln.1 v.2 mgz.1 m30.1 ",
   "m37.1 m3c.1 mid.1 v.2j n1s.2 v.1 mlv.1 mlk-ld.1 mqh.1 v.9 i.1 v.w moh.1 v.1 moj.1 v.1 ",
   "mjd.1 v.1 mon.1 v.1 d.2 mw-qh.1 v.3 m1n.1 ms3.1 d.4 mw-ld.1 mw-lk-ld.1 mq4.1 m53.1 s11.3 ",
   "d.1 mr0.1 d.1 s1r.2 v.1 sw.h d.1 sw.9 v.z mrb.1 mqa.1 mqg.1 mqt.1 mr1.1 mqz.1 mqu.1 mqo.1 ",
   "v.1 mrd.1 v.1 mrf.1 v.1 mrh.1 v.1 mrj.1 v.1 mrl.1 v.1 mrn.1 v.1 mrp.1 v.1 mrr.1 v.1 mrt.1 ",
   "v.1 mrv.1 v.1 mrx.1 v.1 mrz.1 v.1 mqi.1 mqp.1 mqr.1 v.1 mqg.1 mqd.1 v.1 ms8.1 v.1 mqr.1 ",
   "msb.1 v.2 n3m.3 s28.g sw.w v.1c mv5.1 v.1 mv7.1 v.1 mv9.1 v.1 mvb.1 v.1 mvd.1 v.1 mvf.1 ",
   "v.1 mvh.1 v.1 mvj.1 v.1 mvl.1 v.1 mvn.1 v.1 mvp.1 v.1 mvr.1 v.1 mvt.1 v.1 mvv.1 v.1 mvx.1 ",
   "v.1 mvz.1 v.1 mw1.1 v.9 mwb.1 v.1 mwd.1 v.1 mwf.1 v.1 mwh.1 v.1 mwj.1 v.1 mwl.1 v.1 mwn.1 ",
   "v.1 mwp.1 v.1 mwr.1 v.1 mwt.1 v.1 mwv.1 v.1 mwx.1 v.1 mwz.1 v.1 mx1.1 v.1 mx3.1 v.1 mx5.1 ",
   "v.1 mx7.1 v.1 mx9.1 v.1 mxb.1 v.1 mxd.1 v.1 mxf.1 v.1 mxh.1 v.1 mxj.1 v.1 mxl.1 v.1 mxn.1 ",
   "v.1 mxp.1 v.1 mxr.1 v.1 my7.1 mxu.1 v.1 mxw.1 v.1 mxy.1 v.1 my0.1 v.1 my2.1 v.1 my4.1 v.1 ",
   "my6.1 v.2 my9.1 v.1 myb.1 v.1 myd.1 v.1 myf.1 v.1 myh.1 v.1 myj.1 v.1 myl.1 v.1 myn.1 v.1 ",
   "myp.1 v.1 myr.1 v.1 myt.1 v.1 myv.1 v.1 myx.1 v.1 myz.1 v.1 mz1.1 v.1 mz3.1 v.1 mz5.1 v.1 ",
   "mz7.1 v.1 mz9.1 v.1 mzb.1 v.1 mzd.1 v.1 mzf.1 v.1 mzh.1 v.1 mzj.1 v.1 mzl.1 v.1 mzn.1 v.1 ",
   "mzp.1 v.1 mzr.1 v.1 mzt.1 v.1 mzv.1 v.1 mzx.1 v.1 mzz.1 v.1 m101.1 v.1 m103.1 v.1 m105.1 ",
   "v.1 m107.1 v.1 m109.1 v.1 m10b.1 v.1 m10d.1 v.1 m10f.1 v.1 m10h.1 v.1 m10j.1 v.1 m10l.1 ",
   "v.1 m10n.1 v.1 m10p.1 v.1 m10r.1 v.1 m10t.1 v.1 m10v.1 v.1 d.1 s1c.12 d.2 v.1a m12d-136.1 ",
   "v.3 d.2 v.3 d.1 v.1j d.8 v.r d.4 v.6 d.h v.m d.1 v.2g m17r-19w.1 m18o-19w.1 m1c7-19w.1 ",
   "m18q-19w.1 v.2s d.1 v.1c d.2 v.1n d.2 v.2t d.e v.1n d.2 v.1d d.2 v.f d.1 v.s d.2 v.1 d.1 ",
   "v.b d.5 v.v d.8 v.23 d.1 v.39 m1sl-1to.1 m1sm-1to.1 m1sn-1to.1 m1ss-1to.1 m1sx-1to.1 ",
   "m1sy-1to.1 m1t7-1to.1 m1tb-1to.1 v.10 d.1 v.8 d.2 v.2 d.2 v.m d.1 v.7 d.1 v.1 d.3 v.4 d.2 ",
   "v.9 d.2 v.2 d.2 v.4 d.8 v.1 d.4 m1wh-1x8.1 m1wi-1x8.1 d.1 m1wv-1x8.1 v.4 d.2 v.p d.2 v.3 ",
   "d.1 v.6 d.4 v.2 d.2 v.m d.1 v.7 d.1 v.1 m20i-20s.1 d.1 v.1 m20o-20s.1 d.1 v.2 d.2 v.1 d.1 ",
   "v.5 d.4 v.2 d.2 v.3 d.3 v.1 d.7 m1zq-20s.1 m1zr-20s.1 m1zw-20s.1 v.1 d.1 m20b-20s.1 d.7 ",
   "v.h d.a v.3 d.1 v.9 d.1 v.3 d.1 v.m d.1 v.7 d.1 v.2 d.1 v.5 d.2 v.a d.1 v.3 d.1 v.3 d.2 ",
   "v.1 d.f v.4 d.2 v.c d.7 v.7 d.1 v.3 d.1 v.8 d.2 v.2 d.2 v.m d.1 v.7 d.1 v.2 d.1 v.5 d.2 ",
   "v.9 d.2 v.2 d.2 v.3 d.7 v.3 d.4 m275-27w.1 m276-27w.1 d.1 v.5 d.2 v.i d.a v.2 d.1 v.6 d.3 ",
   "v.3 d.1 v.4 d.3 v.2 d.1 v.1 d.1 v.2 d.3 v.2 d.3 v.3 d.3 v.c d.4 v.5 d.3 v.3 d.1 v.4 d.2 ",
   "v.1 d.6 v.1 d.e v.l d.5 v.d d.1 v.3 d.1 v.n d.1 v.g d.2 v.9 d.1 v.3 d.1 v.4 d.7 v.2 d.1 ",
   "v.3 d.2 v.1 d.2 v.4 d.2 v.a d.7 v.m d.1 v.3 d.1 v.n d.1 v.a d.1 v.5 d.2 v.9 d.1 v.3 d.1 ",
   "v.4 d.7 v.2 d.6 v.2 d.1 v.4 d.2 v.a d.1 v.3 d.c v.d d.1 v.3 d.1 v.1f d.1 v.3 d.1 v.6 d.4 ",
   "v.g d.2 v.q d.1 v.3 d.1 v.i d.3 v.o d.1 v.9 d.1 v.1 d.2 v.7 d.3 v.1 d.4 v.6 d.1 v.1 d.1 ",
   "v.8 d.6 v.a d.2 v.3 d.c v.1e m2tp-2sy.1 v.7 d.4 v.t d.11 v.2 d.1 v.1 d.1 v.5 d.1 v.o d.1 ",
   "v.1 d.1 v.c m2x9-2wi.1 v.a d.2 v.5 d.1 v.1 d.1 v.7 d.1 v.a d.2 m2wb-2vt.1 m2wb-2w1.1 v.2 ",
   "d.w v.c m2yz.1 v.1i m30i-33r.1 v.4 d.1 v.4 m30s-33r.1 v.4 m30x-33r.1 v.4 m312-33r.1 v.4 ",
   "m317-33r.1 v.c m30g-33p.1 v.3 d.4 v.2 m31t-31u.1 v.1 m31t-31w.1 m33m-328.1 m33m-31t-328.1 ",
   "m33n-328.1 m33n-31t-328.1 v.7 m31t-328.1 v.h m32q-33r.1 v.4 d.1 v.4 m330-33r.1 v.4 ",
   "m335-33r.1 v.4 m33a-33r.1 v.4 m33f-33r.1 v.c m32o-33p.1 v.3 d.1 v.f d.1 v.d d.11 v.4g ",
   "s5ls.12 d.1 m8x3.1 d.5 m8x9.1 d.2 v.18 m3bw.1 v.2q i.2 v.6g d.1 v.4 d.2 v.7 d.1 v.1 d.1 ",
   "v.4 d.2 v.15 d.1 v.4 d.2 v.x d.1 v.4 d.2 v.7 d.1 v.1 d.1 v.4 d.2 v.f d.1 v.1l d.1 v.4 d.2 ",
   "v.1v d.2 v.w d.3 v.q d.6 v.2e d.2 n8.6 d.2 v.hs d.1 v.s d.3 v.2h d.7 v.m d.9 v.o d.9 v.k ",
   "d.c v.d d.1 v.3 d.1 v.2 d.c v.1g i.2 v.14 d.2 v.a d.6 v.a d.6 v.b i.5 v.a d.6 v.2h d.7 ",
   "v.17 d.5 v.1y d.a v.v d.1 v.c d.4 v.c d.4 v.1 d.3 v.16 d.2 v.5 d.b v.18 d.4 v.q d.6 v.b ",
   "d.3 v.1q d.2 v.1t d.1 v.t d.2 v.b d.6 v.a d.6 v.e d.2 v.v d.1d v.25 d.1 v.4m d.8 v.1o d.3 ",
   "v.f d.3 v.1f mtu.1 mtw.1 mu6.1 n4si.2 mua.1 mui.1 mv7.1 mwuj.1 m5my.1 v.1 d.5 n2bk.17 d.2 ",
   "n2bk.3 v.8 d.8 v.17 d.5 v.18 m2p.1 m6e.1 m2q.1 v.1 n5os.2 md9.1 n5os.8 v.1 m33.1 mf7.1 ",
   "m34.1 m36.1 n5os.2 m3b.1 m2p.1 n5bo.2 m5qa.1 m2q.1 n5pg.2 mgp.1 n5bk.2 m2v.1 v.1 m2z.1 ",
   "m31.1 m97.1 m33.1 mgk.1 n1q.2 m34.1 n5pf.2 m5r1.1 mhb.1 m3a.1 m5r9.1 n52j.3 n522.2 m2x.1 ",
   "m36.1 n5pr.2 n52s.2 mqp.1 n52b.2 v.d mu5.1 v.y mgi.1 m2r.1 mgl.1 m6o.1 mgs.1 m2u.1 mgv.1 ",
   "mgx.1 mh1.1 n5do.3 m5tn.1 mil.1 mh9.1 m5tx.1 min.1 mhd.1 mhc.1 n5do.4 mhk.1 n5dd.2 mbv.1 ",
   "n5d9.2 m5r0.1 n5da.2 m3e.1 n5d8.3 mqg.1 v.1s m5xd.1 v.1 m5xf.1 v.1 m5xh.1 v.1 m5xj.1 v.1 ",
   "m5xl.1 v.1 m5xn.1 v.1 m5xp.1 v.1 m5xr.1 v.1 m5xt.1 v.1 m5xv.1 v.1 m5xx.1 v.1 m5xz.1 v.1 ",
   "m5y1.1 v.1 m5y3.1 v.1 m5y5.1 v.1 m5y7.1 v.1 m5y9.1 v.1 m5yb.1 v.1 m5yd.1 v.1 m5yf.1 v.1 ",
   "m5yh.1 v.1 m5yj.1 v.1 m5yl.1 v.1 m5yn.1 v.1 m5yp.1 v.1 m5yr.1 v.1 m5yt.1 v.1 m5yv.1 v.1 ",
   "m5yx.1 v.1 m5yz.1 v.1 m5z1.1 v.1 m5z3.1 v.1 m5z5.1 v.1 m5z7.1 v.1 m5z9.1 v.1 m5zb.1 v.1 ",
   "m5zd.1 v.1 m5zf.1 v.1 m5zh.1 v.1 m5zj.1 v.1 m5zl.1 v.1 m5zn.1 v.1 m5zp.1 v.1 m5zr.1 v.1 ",
   "m5zt.1 v.1 m5zv.1 v.1 m5zx.1 v.1 m5zz.1 v.1 m601.1 v.1 m603.1 v.1 m605.1 v.1 m607.1 v.1 ",
   "m609.1 v.1 m60b.1 v.1 m60d.1 v.1 m60f.1 v.1 m60h.1 v.1 m60j.1 v.1 m60l.1 v.1 m60n.1 v.1 ",
   "m60p.1 v.1 m60r.1 v.1 m60t.1 v.1 m60v.1 v.1 m60x.1 v.1 m60z.1 v.1 m611.1 v.1 m613.1 v.1 ",
   "m615.1 v.1 m617.1 v.1 m619.1 v.1 m61b.1 v.1 m61d.1 v.1 m61f.1 v.1 m61h.1 v.5 m2p-ji.1 ",
   "m601.1 v.2 m67.1 v.1 m61t.1 v.1 m61v.1 v.1 m61x.1 v.1 m61z.1 v.1 m621.1 v.1 m623.1 v.1 ",
   "m625.1 v.1 m627.1 v.1 m629.1 v.1 m62b.1 v.1 m62d.1 v.1 m62f.1 v.1 m62h.1 v.1 m62j.1 v.1 ",
   "m62l.1 v.1 m62n.1 v.1 m62p.1 v.1 m62r.1 v.1 m62t.1 v.1 m62v.1 v.1 m62x.1 v.1 m62z.1 v.1 ",
   "m631.1 v.1 m633.1 v.1 m635.1 v.1 m637.1 v.1 m639.1 v.1 m63b.1 v.1 m63d.1 v.1 m63f.1 v.1 ",
   "m63h.1 v.1 m63j.1 v.1 m63l.1 v.1 m63n.1 v.1 m63p.1 v.1 m63r.1 v.1 m63t.1 v.1 m63v.1 v.1 ",
   "m63x.1 v.1 m63z.1 v.1 m641.1 v.1 m643.1 v.1 m645.1 v.1 m647.1 v.1 m649.1 v.1 m64b.1 v.1 ",
   "m64d.1 v.1 m64f.1 v.9 n8.8 v.6 d.2 n8.6 d.2 v.8 n8.8 v.8 n8.8 v.6 d.2 n8.6 d.2 v.8 d.1 ",
   "m66p.1 d.1 m66r.1 d.1 m66t.1 d.1 m66v.1 v.8 n8.8 v.1 mq4.1 v.1 mq5.1 v.1 mq6.1 v.1 mq7.1 ",
   "v.1 mr0.1 v.1 mr1.1 v.1 mr2.1 d.2 m64g-qh.1 m64h-qh.1 m64i-qh.1 m64j-qh.1 m64k-qh.1 ",
   "m64l-qh.1 m64m-qh.1 m64n-qh.1 m64g-qh.1 m64h-qh.1 m64i-qh.1 m64j-qh.1 m64k-qh.1 m64l-qh.1 ",
   "m64m-qh.1 m64n-qh.1 m65c-qh.1 m65d-qh.1 m65e-qh.1 m65f-qh.1 m65g-qh.1 m65h-qh.1 m65i-qh.1 ",
   "m65j-qh.1 m65c-qh.1 m65d-qh.1 m65e-qh.1 m65f-qh.1 m65g-qh.1 m65h-qh.1 m65i-qh.1 m65j-qh.1 ",
   "m674-qh.1 m675-qh.1 m676-qh.1 m677-qh.1 m678-qh.1 m679-qh.1 m67a-qh.1 m67b-qh.1 m674-qh.1 ",
   "m675-qh.1 m676-qh.1 m677-qh.1 m678-qh.1 m679-qh.1 m67a-qh.1 m67b-qh.1 v.2 m67k-qh.1 ",
   "mq9-qh.1 mq4-qh.1 d.1 v.1 m69i-qh.1 n8.2 m67k.1 mq4.1 mq9-qh.1 mw-lv.1 mqh.1 mw-lv.1 ",
   "mw-n6.1 mw-lk-n6.1 m67o-qh.1 mqf-qh.1 mq6-qh.1 d.1 v.1 m69y-qh.1 m67m.1 mq5.1 m67o.1 mq6.1 ",
   "mqf-qh.1 mw-lv-lc.1 mw-lv-ld.1 mw-lv-n6.1 v.3 mpc.1 d.2 v.2 n8.2 m67q.1 mq7.1 d.1 ",
   "mw-lw-lc.1 mw-lw-ld.1 mw-lw-n6.1 v.3 mq8.1 v.4 n8.2 m67u.1 mr1.1 m6at.1 mw-lk-lc.1 ",
   "mw-lk-ld.1 m2o.1 d.2 m67w-qh.1 mqx-qh.1 mr2-qh.1 d.1 v.1 m6ba-qh.1 m67s.1 mr0.1 m67w.1 ",
   "mr2.1 mqx-qh.1 mw-ld.1 mw-lw.1 d.1 mw.b i.1 v.2 d.2 v.1 m6c0.1 v.5 mw-mr.1 v.c d.3 v.1 d.7 ",
   "mw.1 v.3 m6cy-6cy.1 m6cy-6cy-6cy.1 v.1 m6d1-6d1.1 m6d1-6d1-6d1.1 v.4 mx-x.1 v.1 mw-lh.1 ",
   "v.8 m1r-1r.1 m1r-x.1 mx-1r.1 v.d m6cy-6cy-6cy-6cy.1 v.7 mw.1 i.5 d.5 i.6 m1c.1 m2x.1 d.2 ",
   "n6dc.6 m17.1 m6qa.1 m1p.1 n6dx.2 m32.1 n6ds.a m17.1 m6qa.1 m1p.1 n6ed.2 d.1 m2p.1 m2t.1 ",
   "m33.1 m3c.1 mgp.1 m2w.1 n6cr.4 m34.1 n6co.2 d.3 v.8 m36-37.1 v.o d.f v.x d.f m2p-1b-2r.1 ",
   "m2p-1b-37.1 m2r.1 m4w-2r.1 v.1 m2r-1b-33.1 m2r-1b-39.1 mgr.1 v.1 m4w-2u.1 n6g3.2 m2w.3 ",
   "m87.1 m2x.2 m30.2 v.1 m32.1 m32-33.1 v.2 n6g9.3 m36.2 v.2 m37-31.1 m38-2t-30.1 m38-31.1 ",
   "v.1 m3e.1 v.1 mqx.1 v.1 m3e.1 v.1 m2z.1 m6d.1 n6h6.2 v.1 m2t.2 m2u.1 m6ku.1 m31.1 m33.1 ",
   "n5et.4 m2x.1 v.1 m2u-2p-3c.1 mqo.1 mqb.2 mqo.1 m6q9.1 v.4 m2s.2 m2t.1 n6hr.2 v.6 ",
   "m1d-6dg-1j.1 m1d-6dg-1l.1 m1d-6dg-1d-1c.1 m1d-6dg-1f.1 m1e-6dg-1f.1 m1d-6dg-1h.1 ",
   "m1e-6dg-1h.1 m1f-6dg-1h.1 m1g-6dg-1h.1 m1d-6dg-1i.1 m1h-6dg-1i.1 m1d-6dg-1k.1 m1f-6dg-1k.1 ",
   "m1h-6dg-1k.1 m1j-6dg-1k.1 m1d-6dg.1 m2x.1 m2x-2x.1 m2x-2x-2x.1 m2x-3a.1 m3a.1 m3a-2x.1 ",
   "m3a-2x-2x.1 m3a-2x-2x-2x.1 m2x-3c.1 m3c.1 m3c-2x.1 m3c-2x-2x.1 m30.1 n6iy.2 m31.1 m2x.1 ",
   "m2x-2x.1 m2x-2x-2x.1 m2x-3a.1 m3a.1 m3a-2x.1 m3a-2x-2x.1 m3a-2x-2x-2x.1 m2x-3c.1 m3c.1 ",
   "m3c-2x.1 m3c-2x-2x.1 m30.1 n6je.2 m31.1 v.3 m6mc.1 v.5 m1c-6dg-1f.1 v.2 d.4 v.4c ",
   "m6qz-6qz.1 m6qz-6qz-6qz.1 v.1 m6r2-6r2.1 m6r2-6r2-6r2.1 v.6w s2jj.2 v.73 d.m v.b d.l ",
   "n75b.9 m1d-1c.1 m1d-1d.1 m1d-1e.1 m1d-1f.1 m1d-1g.1 m1d-1h.1 m1d-1i.1 m1d-1j.1 m1d-1k.1 ",
   "m1d-1l.1 m1e-1c.1 m14-1d-15.1 m14-1e-15.1 m14-1f-15.1 m14-1g-15.1 m14-1h-15.1 m14-1i-15.1 ",
   "m14-1j-15.1 m14-1k-15.1 m14-1l-15.1 m14-1d-1c-15.1 m14-1d-1d-15.1 m14-1d-1e-15.1 ",
   "m14-1d-1f-15.1 m14-1d-1g-15.1 m14-1d-1h-15.1 m14-1d-1i-15.1 m14-1d-1j-15.1 m14-1d-1k-15.1 ",
   "m14-1d-1l-15.1 m14-1e-1c-15.1 d.k m14-2p-15.1 m14-2q-15.1 m14-2r-15.1 m14-2s-15.1 ",
   "m14-2t-15.1 m14-2u-15.1 m14-2v-15.1 m14-2w-15.1 m14-2x-15.1 m14-2y-15.1 m14-2z-15.1 ",
   "m14-30-15.1 m14-31-15.1 m14-32-15.1 m14-33-15.1 m14-34-15.1 m14-35-15.1 m14-36-15.1 ",
   "m14-37-15.1 m14-38-15.1 m14-39-15.1 m14-3a-15.1 m14-3b-15.1 m14-3c-15.1 m14-3d-15.1 ",
   "m14-3e-15.1 n76d.q n773.q m1c.1 v.10h m6qz-6qz-6qz-6qz.1 v.2v m1m-1m-1p.1 m1p-1p.1 ",
   "m1p-1p-1p.1 v.2t m8gt-mw.1 v.47 d.2 v.w d.1 v.2x s1c.1c v.1c m8rl.1 v.1 mh7.1 m5tp.1 mhp.1 ",
   "v.2 m8rs.1 v.1 m8ru.1 v.1 m8rw.1 v.1 mgh.1 mhd.1 mgg.1 mgi.1 v.1 m8s3.1 v.2 m8s6.1 v.6 ",
   "m2y.1 m3a.1 n8cf.2 m8sh.1 v.1 m8sj.1 v.1 m8sl.1 v.1 m8sn.1 v.1 m8sp.1 v.1 m8sr.1 v.1 ",
   "m8st.1 v.1 m8sv.1 v.1 m8sx.1 v.1 m8sz.1 v.1 m8t1.1 v.1 m8t3.1 v.1 m8t5.1 v.1 m8t7.1 v.1 ",
   "m8t9.1 v.1 m8tb.1 v.1 m8td.1 v.1 m8tf.1 v.1 m8th.1 v.1 m8tj.1 v.1 m8tl.1 v.1 m8tn.1 v.1 ",
   "m8tp.1 v.1 m8tr.1 v.1 m8tt.1 v.1 m8tv.1 v.1 m8tx.1 v.1 m8tz.1 v.1 m8u1.1 v.1 m8u3.1 v.1 ",
   "m8u5.1 v.1 m8u7.1 v.1 m8u9.1 v.1 m8ub.1 v.1 m8ud.1 v.1 m8uf.1 v.1 m8uh.1 v.1 m8uj.1 v.1 ",
   "m8ul.1 v.1 m8un.1 v.1 m8up.1 v.1 m8ur.1 v.1 m8ut.1 v.1 m8uv.1 v.1 m8ux.1 v.1 m8uz.1 v.1 ",
   "m8v1.1 v.1 m8v3.1 v.1 m8v5.1 v.1 m8v7.1 v.8 m8vg.1 v.1 m8vi.1 v.4 m8vn.1 v.1 d.5 v.19 d.1 ",
   "v.1 d.5 v.1 d.2 v.1k d.7 m8yp.1 v.1 d.e v.o d.9 v.7 d.1 v.7 d.1 v.7 d.1 v.7 d.1 v.7 d.1 ",
   "v.7 d.1 v.7 d.1 v.7 d.1 v.3i d.y v.q d.1 v.4 mlal.1 v.2b mvj3.1 d.c mfeo.1 mffs.1 mfg6.1 ",
   "mfgf.1 mfh5.1 mfid.1 mfik.1 mfj4.1 mfju.1 mg1r.1 mg2t.1 mg2z.1 mg3m.1 mg46.1 mg4r.1 mg68.1 ",
   "mg6t.1 mg74.1 mgbf.1 mge1.1 mget.1 mgey.1 mgfs.1 mgg1.1 mggs.1 mgh5.1 mghu.1 mgja.1 mgjs.1 ",
   "mgkj.1 mh5j.1 mh7j.1 mhkb.1 mhky.1 mhl6.1 mhlh.1 mhlz.1 mho3.1 mi1c.1 mi2o.1 mi60.1 mi6n.1 ",
   "mi76.1 mi7s.1 mi9a.1 mi9d.1 mijf.1 mijp.1 mik1.1 mike.1 minm.1 minu.1 minz.1 mir8.1 miri.1 ",
   "mirv.1 mis3.1 mits.1 miu9.1 miur.1 miwz.1 mjd4.1 mjee.1 mjez.1 mjzj.1 mjzo.1 mk1z.1 mk2f.1 ",
   "mk2s.1 mk3d.1 mk4g.1 mk4l.1 mkc0.1 mkco.1 mkdk.1 ml5s.1 ml7m.1 ml89.1 ml9v.1 mlaj.1 mlas.1 ",
   "mlaz.1 mlcf.1 mlck.1 mldg.1 mm7f.1 mmju.1 mmk6.1 mmkb.1 mmkf.1 mmkn.1 mml5.1 mml7.1 mmng.1 ",
   "mmtg.1 mmtl.1 mn30.1 mn3a.1 mn4o.1 mn4v.1 mn54.1 mn5c.1 mn7v.1 mn82.1 mnee.1 mnel.1 mnfy.1 ",
   "mngf.1 mnhq.1 mnob.1 mnoi.1 mnoz.1 mny2.1 mo1k.1 mo1q.1 mo6s.1 mo97.1 moah.1 mokz.1 mooo.1 ",
   "mp4m.1 mp5d.1 mp6y.1 mp8d.1 mpa9.1 mpak.1 mpaq.1 mpbn.1 mpdr.1 mpe1.1 mpnn.1 mpnu.1 mpo3.1 ",
   "mpoc.1 mpos.1 mpp7.1 mppb.1 mpri.1 mprm.1 mprs.1 mqj1.1 mqjv.1 mqww.1 mqx8.1 mqxv.1 mr5q.1 ",
   "mr63.1 mr82.1 mr9c.1 mrp3.1 mrpi.1 mrpx.1 mrqw.1 mrrx.1 mrxg.1 mrxs.1 mrzn.1 ms6j.1 ms7e.1 ",
   "msd7.1 msds.1 msdx.1 msk1.1 msp5.1 mssm.1 msss.1 mssx.1 mtiv.1 mtj4.1 mtng.1 mtrq.1 mtrt.1 ",
   "mtt4.1 mtw1.1 mtwe.1 mtwi.1 mtwp.1 mtzf.1 mu0d.1 mu0j.1 mu0x.1 mu5k.1 mu6z.1 mu73.1 muc6.1 ",
   "muc9.1 mucs.1 mujs.1 mul4.1 mulb.1 mun9.1 munj.1 munm.1 munw.1 muoq.1 muzp.1 mvat.1 mvb3.1 ",
   "mvc5.1 mvcr.1 mvcz.1 mvd9.1 mvdd.1 mveh.1 mvel.1 mvf2.1 mvf7.1 mvfk.1 mvgb.1 mvgq.1 mvgy.1 ",
   "mvil.1 mvj0.1 mvj4.1 d.16 mw.1 v.1 m1a.1 v.1f m9hu.1 v.1 mgg1.1 s6x7.2 v.5 d.1 v.2e d.2 ",
   "v.2 mw-9ll.1 mw-9lm.1 v.2 m9l4-9l6.1 v.2n m9mb-9mw.1 d.5 v.17 d.1 n6cx.2 m3hm.1 m3cy.1 ",
   "n689.2 n6d0.3 n68a.6 m3dm.1 n6d7.3 m3dt.1 n6d8.a n6b2.l i.1 n6dt.2 n68w.2 m3ik.1 m3im.1 ",
   "m3ir.1 m3iv.1 m3ix.1 m3do.1 m3j1.1 m3j3.1 n6dw.2 m3ds.1 n6du.2 m3dz.1 m3e1.1 n6dp.5 m3ea.1 ",
   "m3ee.1 m3eo.1 m3ev.1 m3f0.1 n68h.2 n6ct.3 n6bn.2 m3go.1 n6bd.2 m3h0.1 m3ha.1 m3hd.1 d.1 ",
   "v.2 mfeo.1 mfik.1 mfex.1 mh5n.1 mfey.1 mffx.1 mfez.1 mn5e.1 mfh5.1 mffd.1 mfep.1 mhm1.1 ",
   "mh80.1 mfju.1 v.1y d.a v.g m14-3cw-15.1 m14-3cy-15.1 m14-3cz-15.1 m14-3d1-15.1 ",
   "m14-3d2-15.1 m14-3d3-15.1 m14-3d5-15.1 m14-3d7-15.1 m14-3d8-15.1 m14-3da-15.1 m14-3db-15.1 ",
   "m14-3dc-15.1 m14-3dd-15.1 m14-3de-15.1 m14-xz4-15.1 m14-yvs-15.1 m14-zc4-15.1 ",
   "m14-108s-15.1 m14-10p4-15.1 m14-115g-15.1 m14-1224-15.1 m14-12ys-15.1 m14-13f4-15.1 ",
   "m14-14bs-15.1 m14-14s4-15.1 m14-158g-15.1 m14-15os-15.1 m14-1654-15.1 m14-13p8-15.1 ",
   "m14-1350-13ic-15.1 m14-1350-16f8-15.1 d.1 m14-feo-15.1 m14-fik-15.1 m14-fex-15.1 ",
   "m14-h5n-15.1 m14-fis-15.1 m14-g31-15.1 m14-fer-15.1 m14-g2z-15.1 m14-fh9-15.1 m14-gg1-15.1 ",
   "m14-kco-15.1 m14-m7f-15.1 m14-ldg-15.1 m14-kdk-15.1 m14-ssx-15.1 m14-h7j-15.1 m14-k4l-15.1 ",
   "m14-kkq-15.1 m14-kcp-15.1 m14-ny6-15.1 m14-glp-15.1 m14-mm1-15.1 m14-rs1-15.1 m14-nz1-15.1 ",
   "m14-gc4-15.1 m14-fkz-15.1 m14-gos-15.1 m14-i1y-15.1 m14-nhf-15.1 m14-flt-15.1 m14-rt3-15.1 ",
   "m14-ggk-15.1 m14-nzh-15.1 m14-fm9-15.1 m14-pnu-15.1 m14-po3-15.1 mgun.1 minw.1 mk1z.1 ",
   "moen.1 v.8 m34-38-2t.1 m1e-1d.1 m1e-1e.1 m1e-1f.1 m1e-1g.1 m1e-1h.1 m1e-1i.1 m1e-1j.1 ",
   "m1e-1k.1 m1e-1l.1 m1f-1c.1 m1f-1d.1 m1f-1e.1 m1f-1f.1 m1f-1g.1 m1f-1h.1 m3cw.1 n6lb.2 ",
   "n6la.3 m3d5.1 n6l8.2 n6l7.5 mxz4.1 myvs.1 mzc4.1 m108s.1 m10p4.1 m115g.1 m1224.1 m12ys.1 ",
   "m13f4.1 m14bs.1 m14s4.1 m158g.1 m15os.1 m1654.1 m14c8-y5c.1 m13p8-13dk.1 m138w.1 v.1 ",
   "mfeo.1 mfik.1 mfex.1 mh5n.1 mfis.1 mg31.1 mfer.1 mg2z.1 mfh9.1 mgg1.1 mkco.1 mm7f.1 mldg.1 ",
   "mkdk.1 mssx.1 mh7j.1 mk4l.1 mkkq.1 mkcp.1 mny6.1 mglp.1 mmm1.1 mrs1.1 mnz1.1 mgc4.1 mo2g.1 ",
   "mn5j.1 mho3.1 msix.1 mg16.1 mghc.1 mlig.1 mu11.1 mfm9.1 mg49.1 ml7n.1 mfey.1 mffx.1 mfez.1 ",
   "mijq.1 mgkz.1 mgfv.1 mi3b.1 mi1y.1 mnhf.1 mflt.1 mrt3.1 mggk.1 mhlo.1 m1f-1i.1 m1f-1j.1 ",
   "m1f-1k.1 m1f-1l.1 m1g-1c.1 m1g-1d.1 m1g-1e.1 m1g-1f.1 m1g-1g.1 m1g-1h.1 m1g-1i.1 m1g-1j.1 ",
   "m1g-1k.1 m1g-1l.1 m1h-1c.1 m1d-kco.1 m1e-kco.1 m1f-kco.1 m1g-kco.1 m1h-kco.1 m1i-kco.1 ",
   "m1j-kco.1 m1k-kco.1 m1l-kco.1 m1d-1c-kco.1 m1d-1d-kco.1 m1d-1e-kco.1 m2w-2v.1 m2t-36-2v.1 ",
   "m2t-3a.1 m30-38-2s.1 m9lu.1 m9lw.1 m9ly.1 m9m0.1 nfe.2 m9m5.1 m9m7.1 m9m9.1 m9mb.1 m9md.1 ",
   "m9mf.1 m9mh.1 m9mj.1 m9ml.1 m9mn.1 m9mp.1 m9ms.1 m9mu.1 m9mw.1 ney.6 m9n6.1 m9n9.1 m9nc.1 ",
   "m9nf.1 neo.5 m9no.1 m9nq.1 nel.6 nek.4 mfl0-gp8.1 m9lu-9n5-9oc-9mw.1 m9lu-9nv-9n9-9lt.1 ",
   "m9lu-9o3-9ne-9lu.1 m9lu-9oc-9nv.1 m9lw-9mz-9o3-9m8.1 m9lw-9o3-9mp.1 m9ly-9m1-9o3.1 ",
   "m9m0-9mh-9m7-9oc-9mx.1 m9m0-9oc-9m3-9oc.1 m9m2-9o3-9mh.1 m9m2-9oc-9nk.1 m9m3-9lw-9nu.1 ",
   "m9m3-9nt-9mr-9mw.1 m9m3-9nx-9nu-9oc.1 m9m4-9nx-9o3.1 m9m4-9o3-9ni.1 m9m6-9m4.1 ",
   "m9m6-9mz-9oc.1 m9m5-9np-9nu-9oc.1 m9m6-9nv-9mo-9oc.1 m9m5-9nx.1 m9m5-9nx-9m8-9nt-9nk.1 ",
   "m9m5-9nx-9nl-9oc-9mw-9nv.1 m9m5-9nx-9nz-9mr-9mw.1 m9m8-9nt-9nk.1 m9m8-9nt-9nk-9mw-9o3.1 ",
   "m9m7-9nv-9mk-9lw-9nx.1 m9m7-9nx-9oc-9n1.1 m9m9-9oc-9mh.1 m9mb-9nv-9my.1 m9mb-9oc-9nh.1 ",
   "m9md-9lw-9m7-9nv.1 m9md-9o3-9mp-9oc-9nk.1 m9mf-9nu-9o3-9m8.1 m9mj-9o3-9mp.1 m9mj-9o3-9mw.1 ",
   "m9mo-9oc-9mh.1 m9mv-9mf.1 m9mx-9nv.1 m9mw-9o3.1 m9my-9n2.1 m9n2-9mr-9mw.1 m9n3-9lw-9ms.1 ",
   "m9n5-9oc-9mj-9o3-9mw.1 m9n5-9oc-9ms.1 m9n4-9oc-9nw-9nv.1 m9n8-9lu-9mh-9mw-9nv.1 ",
   "m9n8-9m7-9nv.1 m9n8-9mb.1 m9n7-9nv.1 m9n9-9lt-9nt-9mr-9mx.1 m9n9-9lv-9oc-9mw.1 ",
   "m9na-9mr-9mf-9lz-9nv.1 m9n9-9nt-9o3.1 m9nc-9m7-9mn-9oc-9nv.1 m9ne-9ml.1 m9ne-9mz-9n6.1 ",
   "m9nc-9nv-9ms.1 m9ne-9o3-9mh.1 m9ne-9oc-9mg.1 m9nd-9oc-9mn.1 m9nh-9lw-9o3-9mw.1 ",
   "m9ng-9nv-9mw.1 m9nf-9o3.1 m9nh-9o3-9mx.1 m9nf-9oc-9nv.1 m9nf-9oc-9o3.1 m9ni-9lw-9m7-9nx.1 ",
   "m9ni-9lw-9nv.1 m9ni-9mr-9n3.1 m9ni-9nv-9m7.1 m9ni-9o3-9mf-9nr-9o3.1 m9nj-9m7-9nx-9o3.1 ",
   "m9nj-9nu.1 m9nj-9nu-9n4-9oc-9nv.1 m9nl-9m4.1 m9nl-9m4-9mw-9o3.1 m9nl-9oc-9mw-9nv.1 ",
   "m9no-9oc-9mx.1 m9no-9oc-9nv.1 m9nq-9lu-9o3.1 m9nu-9mr-9mw-9nv.1 m9nu-9nt.1 m9nv-9n8-9oc.1 ",
   "m9nv-9oc-9na-9nv.1 m9nw-9nk.1 m9nw-9o3-9mw-9ma-9o3.1 m9nz-9mr-9mw.1 m1c-m9l.1 m1d-m9l.1 ",
   "m1e-m9l.1 m1f-m9l.1 m1g-m9l.1 m1h-m9l.1 m1i-m9l.1 m1j-m9l.1 m1k-m9l.1 m1l-m9l.1 ",
   "m1d-1c-m9l.1 m1d-1d-m9l.1 m1d-1e-m9l.1 m1d-1f-m9l.1 m1d-1g-m9l.1 m1d-1h-m9l.1 m1d-1i-m9l.1 ",
   "m1d-1j-m9l.1 m1d-1k-m9l.1 m1d-1l-m9l.1 m1e-1c-m9l.1 m1e-1d-m9l.1 m1e-1e-m9l.1 m1e-1f-m9l.1 ",
   "m1e-1g-m9l.1 m2w-34-2p.1 m2s-2p.1 m2p-39.1 m2q-2p-36.1 m33-3a.1 m34-2r.1 m2s-31.1 ",
   "m2s-31-1e.1 m2s-31-1f.1 m2x-39.1 minn-jdc.1 mk6l-gp8.1 mhlz-l7n.1 mk5q-lh7.1 ",
   "mkkq-irz-fmi-ny6.1 m34-2p.1 m32-2p.1 mqk-2p.1 m31-2p.1 m2z-2p.1 m2z-2q.1 m31-2q.1 m2v-2q.1 ",
   "m2r-2p-30.1 m2z-2r-2p-30.1 m34-2u.1 m32-2u.1 mqk-2u.1 mqk-2v.1 m31-2v.1 m2z-2v.1 m2w-3e.1 ",
   "m2z-2w-3e.1 m31-2w-3e.1 m2v-2w-3e.1 m38-2w-3e.1 mqk-30.1 m31-30.1 m2s-30.1 m2z-30.1 ",
   "m2u-31.1 m32-31.1 mqk-31.1 m31-31.1 m2r-31.1 m2z-31.1 m31-31-1e.1 m2r-31-1e.1 m31-1e.1 ",
   "m2z-31-1e.1 m31-31-1f.1 m2r-31-1f.1 m31-1f.1 m2z-31-1f.1 m31-6qd-37.1 m31-6qd-37-1e.1 ",
   "m34-2p.1 m2z-34-2p.1 m31-34-2p.1 m2v-34-2p.1 m36-2p-2s.1 m36-2p-2s-6qd-37.1 ",
   "m36-2p-2s-6qd-37-1e.1 m34-37.1 m32-37.1 mqk-37.1 m31-37.1 m34-3a.1 m32-3a.1 mqk-3a.1 ",
   "m31-3a.1 m2z-3a.1 m31-3a.1 m34-3b.1 m32-3b.1 mqk-3b.1 m31-3b.1 m2z-3b.1 m31-3b.1 m2z-qx.1 ",
   "m31-qx.1 d.1 m2q-35.1 m2r-2r.1 m2r-2s.1 m2r-6qd-2z-2v.1 d.1 m2s-2q.1 m2v-3d.1 m2w-2p.1 ",
   "m2w-34.1 m2x-32.1 m2z-2z.1 m2z-31.1 m2z-38.1 m30-31.1 m30-32.1 m30-33-2v.1 m30-3c.1 ",
   "m31-2q.1 m31-2x-30.1 m31-33-30.1 m34-2w.1 d.1 m34-34-31.1 m34-36.1 m37-36.1 m37-3a.1 ",
   "m3b-2q.1 m3a-6qd-31.1 m2p-6qd-31.1 m1d-k4l.1 m1e-k4l.1 m1f-k4l.1 m1g-k4l.1 m1h-k4l.1 ",
   "m1i-k4l.1 m1j-k4l.1 m1k-k4l.1 m1l-k4l.1 m1d-1c-k4l.1 m1d-1d-k4l.1 m1d-1e-k4l.1 ",
   "m1d-1f-k4l.1 m1d-1g-k4l.1 m1d-1h-k4l.1 m1d-1i-k4l.1 m1d-1j-k4l.1 m1d-1k-k4l.1 m1d-1l-k4l.1 ",
   "m1e-1c-k4l.1 m1e-1d-k4l.1 m1e-1e-k4l.1 m1e-1f-k4l.1 m1e-1g-k4l.1 m1e-1h-k4l.1 m1e-1i-k4l.1 ",
   "m1e-1j-k4l.1 m1e-1k-k4l.1 m1e-1l-k4l.1 m1f-1c-k4l.1 m1f-1d-k4l.1 m2v-2p-30.1 v.m8d d.3 ",
   "v.1j d.9 v.9o d.k mwu9.1 v.1 mwub.1 v.1 mwud.1 v.1 mwuf.1 v.1 mwuh.1 v.1 mwuj.1 v.1 mwul.1 ",
   "v.1 mwun.1 v.1 mwup.1 v.1 mwur.1 v.1 mwut.1 v.1 mwuv.1 v.1 mwux.1 v.1 mwuz.1 v.1 mwv1.1 ",
   "v.1 mwv3.1 v.1 mwv5.1 v.1 mwv7.1 v.1 mwv9.1 v.1 mwvb.1 v.1 mwvd.1 v.1 mwvf.1 v.1 mwvh.1 ",
   "v.j mww1.1 v.1 mww3.1 v.1 mww5.1 v.1 mww7.1 v.1 mww9.1 v.1 mwwb.1 v.1 mwwd.1 v.1 mwwf.1 ",
   "v.1 mwwh.1 v.1 mwwj.1 v.1 mwwl.1 v.1 mwwn.1 v.1 mwwp.1 v.1 mwwr.1 v.1 mui.1 muk.1 v.2i d.8 ",
   "v.y mx0j.1 v.1 mx0l.1 v.1 mx0n.1 v.1 mx0p.1 v.1 mx0r.1 v.1 mx0t.1 v.1 mx0v.1 v.3 mx0z.1 ",
   "v.1 mx11.1 v.1 mx13.1 v.1 mx15.1 v.1 mx17.1 v.1 mx19.1 v.1 mx1b.1 v.1 mx1d.1 v.1 mx1f.1 ",
   "v.1 mx1h.1 v.1 mx1j.1 v.1 mx1l.1 v.1 mx1n.1 v.1 mx1p.1 v.1 mx1r.1 v.1 mx1t.1 v.1 mx1v.1 ",
   "v.1 mx1x.1 v.1 mx1z.1 v.1 mx21.1 v.1 mx23.1 v.1 mx25.1 v.1 mx27.1 v.1 mx29.1 v.1 mx2b.1 ",
   "v.1 mx2d.1 v.1 mx2f.1 v.1 mx2h.1 v.1 mx2j.1 v.1 mx2l.1 v.1 mx2n.1 v.1 mx2n.1 v.8 mx2y.1 ",
   "v.1 mx30.1 v.1 m5tl.1 mx33.1 v.1 mx35.1 v.1 mx37.1 v.1 mx39.1 v.1 mx3b.1 v.4 mx3g.1 v.1 ",
   "mh1.1 v.2 mx3l.1 v.1 mx3n.1 v.3 mx3r.1 v.1 mx3t.1 v.1 mx3v.1 v.1 mx3x.1 v.1 mx3z.1 v.1 ",
   "mx41.1 v.1 mx43.1 v.1 mx45.1 v.1 mx47.1 v.1 mx49.1 v.1 mh2.1 mgs.1 mgx.1 mh8.1 mh6.1 v.1 ",
   "mim.1 mhz.1 mil.1 mxub.1 mx4l.1 v.1 mx4n.1 v.1 mx4p.1 v.1 mx4r.1 v.1 mx4t.1 v.1 mx4v.1 v.1 ",
   "mx4x.1 v.1 mx4z.1 v.1 mx3o.1 mhu.1 m5u6.1 mx54.1 v.1 mx56.1 v.1 mh0.1 mx59.1 v.1 d.2 ",
   "mx5d.1 v.1 d.1 v.1 d.1 v.1 mx5j.1 v.1 mx5l.1 v.1 mx5n.1 v.1 mbf.1 d.l m2r.1 m2u.1 m35.1 ",
   "mx6e.1 v.2 m87.1 m9f.1 v.1f d.3 v.a d.6 v.1k d.8 v.1y d.8 v.c d.6 v.38 d.b v.u d.3 v.26 ",
   "d.1 v.b d.4 v.x d.1 v.1j d.9 v.e d.2 v.a d.2 v.2v d.o v.s d.a v.6 d.2 v.6 d.2 v.6 d.9 v.7 ",
   "d.1 v.7 d.1 v.18 mx0n.1 mxtj.1 mh7.1 mxua.1 v.9 mi5.1 v.2 d.4 ntzk.28 v.1a d.2 v.a d.6 ",
   "v.8mc d.c v.n d.4 v.1d d.6is mrpk.1 mkc4.1 ms7e.1 mrt4.1 mlw1.1 mfg2.1 mgkl.1 mvj0.2 ",
   "mhn5.1 mssx.1 mgw7.1 mhmw.1 mjcm.1 mne1.1 mp6t.1 mqin.1 mqt6.1 mr20.1 msjz.1 mkxu.1 mljv.1 ",
   "mmah.1 mmvy.1 mq4d.1 msq2.1 muep.1 mfia.1 mghh.1 ml50.1 mmjf.1 mqi5.1 mv8e.1 mifk.1 mm3v.1 ",
   "mqfh.1 mr50.1 mjih.1 mpnc.1 mqvz.1 miq2.1 mkd3.1 mlm2.1 mmpo.1 mslq.1 mfpi.1 mg53.1 mgda.1 ",
   "mjwk.1 ml3n.1 mmj4.1 mnhj.1 mpa9.1 mqh2.1 mqjg.1 ms1b.1 mtv6.1 mupb.1 mv7e.1 mnt8.1 mnzz.1 ",
   "motc.1 mq15.1 mt1g.1 mvb3.1 mrfa.1 mhjz.1 miro.1 mokg.1 mpdq.1 mmle.1 mnuy.1 mrsy.1 mttj.1 ",
   "mhjs.1 mi8y.1 mkyb.1 mlp6.1 mlxr.1 moq7.1 moxj.1 mtor.1 mgcy.1 mpe3.1 mg64.1 mg5o.1 mo4c.1 ",
   "mou6.1 mq29.1 mtpx.1 mrk0.1 mjin.1 mkxu.1 mrge.1 mfg9.1 mi5j.1 miz6.1 mmtj.1 mn74.1 mgev.1 ",
   "mnwb.1 mfr3.1 miw9.1 mff1.1 mlho.1 mk1k.1 mopu.1 mgjn.1 mhge.1 mni9.1 mq4p.1 mre2.1 mla2.1 ",
   "msds.1 mlfs.1 mjjy.1 mput.1 mjog.1 mn6t.1 mfji.1 mg2x.1 mg5l.1 mkn5.1 moo7.1 mprj.1 mrf6.1 ",
   "mssv.1 mgdx.1 mgn6.1 mho3.1 mir0.1 mk3p.1 mm4e.1 mnxm.1 mtkd.1 mui2.1 mvbr.1 mvda.1 mgbf.1 ",
   "mkau.1 ml87.1 msbm.1 mino.1 mj9s.1 mjcw.1 mjve.1 mlyb.1 mmdl.1 mn0p.1 mo22.1 movo.1 mpdb.1 ",
   "ms9y.1 mq9a.1 msgz.1 mt3e.1 mg7r.1 mgbn.1 mgql.1 mma0.1 mr0i.1 mre2.1 miq1.1 miyd.1 mjnf.1 ",
   "ml9q.1 moji.1 mmt1.1 mfl0.1 mh6h.1 mi5j.1 miii.1 mizg.1 mmuq.1 mmzt.1 mp7e.1 mpc6.1 msvo.1 ",
   "mtti.1 mtvs.1 mu1k.1 mfpn.1 mo1a.1 mss4.1 mtrs.1 mj4x.1 mfie.1 mfyy.1 mi5q.1 mi7z.1 mk2h.1 ",
   "mkxu.1 mmha.1 mncy.1 mq9o.1 msjg.1 mvil.1 mk94.1 mtny.1 mgax.1 mkfv.1 mkj7.1 mlkx.1 mluk.1 ",
   "mmx5.1 mn6h.1 mnsb.1 mopc.1 mu3i.1 mg31.1 mje6.1 mtq0.1 mfu3.1 mie1.1 mlpm.1 msa2.1 mivf.1 ",
   "mj7o.1 mkk7.1 mmtj.1 mtqe.1 mg89.1 mglr.1 mi91.1 mk5v.1 mkem.1 mko8.1 mlid.1 mmx2.1 mnaa.1 ",
   "mp6h.1 mr0v.1 mr1d.1 msss.1 mtsy.1 mgfz.1 mlve.1 mgm5.1 mmhc.1 mn14.1 mqgq.1 mtr7.1 muvr.1 ",
   "mvbz.1 mkgn.1 mlor.1 mpns.1 mo97.1 mobk.1 molu.1 mmo0.1 mm8p.1 mriw.1 mfk0.1 mpx2.1 mg8q.1 ",
   "mg7b.1 mip2.1 mjir.1 monq.1 mi2t.1 mljy.1 mkac.1 msaj.1 mqx8.1 mtot.1 mr63.1 miqb.1 mg1s.1 ",
   "mgxs.1 v.2 mhga.1 v.1 mk8k.1 v.2 mg66.1 mmqy.1 mngq.1 mny4.1 mnz2.1 mnz9.1 mo0f.1 mtw6.1 ",
   "mon2.1 mp8d.1 v.1 mqhe.1 v.1 mrg8.1 v.2 mshk.1 msn1.1 v.3 mu7j.1 mu7w.1 mu94.1 mv5g.1 ",
   "msm6.1 mtrr.1 mfqm.1 mfzb.1 mg25.1 mgcp.1 mgdg.1 mggh.1 mgwt.1 mgzq.1 mh2g.1 mhfk.1 mhig.1 ",
   "mi90.1 mi9a.1 mj2s.1 mj8o.1 mj9q.1 mjci.1 mk0f.1 mk4i.1 mk9d.1 mkn9.1 mlmf.1 mlqy.1 mlya.1 ",
   "mmem.1 mmjv.1 mmxu.1 mntd.1 mny6.1 mnyh.1 mnyg.1 mnyo.1 mnyu.1 mnz1.1 npfp.2 mo5c.1 mo75.1 ",
   "mog0.1 movo.1 mow9.1 moxt.1 mp6a.1 mpad.1 mpnx.1 mprt.2 mq53.1 mr2o.1 mr6e.1 mrgh.1 mri1.1 ",
   "mrtf.1 mruw.1 msdy.1 mshk.1 mtsz.1 mu0v.1 mu2j.1 mj1x.1 m36cu.1 mpp4.1 d.2 mffq.1 mg51.1 ",
   "mg2w.1 mfpc.1 mg1x.1 mg3k.1 mgcn.1 mge2.1 mgwt.1 mgut.1 mgwp.1 mgyq.1 mhga.1 mhir.1 mhms.1 ",
   "mhn8.1 mhuq.1 mi08.1 miqa.1 miqh.1 miuh.1 miwd.1 mj4o.1 mj7y.1 mj60.1 mj9q.1 mj8g.1 mjci.1 ",
   "mjec.1 mjpg.1 mjrw.1 mjte.1 mk0m.1 mk8k.1 mkd3.1 mkd7.1 mkeu.1 ml89.1 mla2.1 mlkx.1 mlwb.1 ",
   "mlvv.1 mlya.1 mm5a.1 mmem.1 mnmv.1 mmk5.1 mmnj.1 mmqy.1 mn01.1 mn46.1 mn5n.1 mnbx.1 mnbz.1 ",
   "mngq.1 mnh7.1 mnhw.1 mnka.1 mnk0.1 mnv0.1 mo8h.1 mog0.1 mol7.1 morf.1 movo.1 mp4u.1 mpad.1 ",
   "mpxu.1 mq27.1 mqrd.1 mr41.1 mr5y.1 mr6e.1 mren.1 mrg8.1 mrez.1 mrgh.1 mrge.1 mrfx.1 mri1.1 ",
   "mrka.1 mruw.1 msag.1 msj6.1 msrd.1 msxi.1 mtq4.1 mtsz.1 mtw6.1 mtzv.1 mu0v.1 mu17.1 mu2j.1 ",
   "mumq.1 mvj0.1 m313e.1 m3138.1 m33dh.1 mbrx.1 mcns.1 mcop.1 m39e1.1 m3bgw.1 m3i6r.1 mvgj.1 ",
   "mvim.1 d.12 m2u-2u.1 m2u-2x.1 m2u-30.1 m2u-2u-2x.1 m2u-2u-30.1 m37-38.2 d.c m12s-12u.1 ",
   "m12s-12d.1 m12s-12j.1 m132-12u.1 m12s-12l.1 d.5 m15l-14k.1 v.1 m16a-14n.1 m15u.1 m15c.1 ",
   "n1cgf.2 n1cg9.3 m160.1 m162.1 m17.1 m161-14x.1 m161-14y.1 m161-14s-14x.1 m161-14s-14y.1 ",
   "m15c-14n.1 m15c-14o.1 m15c-14s.1 m15d-14s.1 m15e-14s.1 m15f-14s.1 m15g-14s.1 m15h-14s.1 ",
   "m15i-14s.1 d.1 m15k-14s.1 m15l-14s.1 m15m-14s.1 m15n-14s.1 m15o-14s.1 d.1 m15q-14s.1 d.1 ",
   "m15s-14s.1 m15t-14s.1 d.1 m15v-14s.1 m15w-14s.1 d.1 m15y-14s.1 m15z-14s.1 m160-14s.1 ",
   "m161-14s.1 m162-14s.1 m15h-14p.1 m15d-14v.1 m15n-14v.1 m15w-14v.1 m15c-15o.1 m19t.2 m1a3.4 ",
   "m1a6.4 m1a8.4 m1a2.4 m1a7.4 m1a1.4 m1b8.4 m1ba.4 m1ac.4 m1ab.4 m1ae.4 m1af.4 m1al.2 m1ak.2 ",
   "m1am.2 m1ag.2 m1aw.2 m1ap.2 m1bd.4 m1bj.4 m1bn.4 m1bl.4 m1bu.2 m1bv.4 m1c0.2 m1c1.4 m1by.4 ",
   "m1ci.2 m1cj.2 v.h d.g m1bh.4 m1c7.2 m1c6.2 m1c8.2 m1c7-19w.1 m1cb.2 m1c5.2 m1c9.2 m1cg.4 ",
   "m18p.2 m17q-17r.2 m17q-1cl.2 m17q-18o.2 m17q-1c7.2 m17q-1c6.2 m17q-1c8.2 m17q-1cg.3 ",
   "m17q-18p.3 m1cc.4 m17q-17w.1 m17q-17x.1 m17q-18l.1 m17q-18p.1 m17q-18q.1 m17s-17w.1 ",
   "m17s-17x.1 m17s-17y.1 m17s-18l.1 m17s-18p.1 m17s-18q.1 m17u-17w.1 m17u-17x.1 m17u-17y.1 ",
   "m17u-18l.1 m17u-18p.1 m17u-18q.1 m17v-17w.1 m17v-18l.1 m17v-18p.1 m17v-18q.1 m17w-17x.1 ",
   "m17w-18l.1 m17x-17w.1 m17x-18l.1 m17y-17w.1 m17y-17x.1 m17y-18l.1 m183-17w.1 m183-17x.1 ",
   "m183-17y.1 m183-18l.1 m185-17x.1 m185-18l.1 m186-17w.1 m186-17x.1 m186-17y.1 m186-18l.1 ",
   "m187-17x.1 m187-18l.1 m188-18l.1 m189-17w.1 m189-18l.1 m18a-17w.1 m18a-18l.1 m18h-17w.1 ",
   "m18h-17x.1 m18h-17y.1 m18h-18l.1 m18h-18p.1 m18h-18q.1 m18i-17x.1 m18i-18l.1 m18i-18p.1 ",
   "m18i-18q.1 m18j-17r.1 m18j-17w.1 m18j-17x.1 m18j-17y.1 m18j-18k.1 m18j-18l.1 m18j-18p.1 ",
   "m18j-18q.1 m18k-17w.1 m18k-17x.1 m18k-17y.1 m18k-18l.1 m18k-18p.1 m18k-18q.1 m18l-17w.1 ",
   "m18l-17x.1 m18l-17y.1 m18l-18l.1 m18l-18p.1 m18l-18q.1 m18m-17w.1 m18m-17x.1 m18m-17y.1 ",
   "m18m-18l.1 m18m-18p.1 m18m-18q.1 m18n-17w.1 m18n-18l.1 m18n-18p.1 m18n-18q.1 m18q-17w.1 ",
   "m18q-17x.1 m18q-17y.1 m18q-18l.1 m18q-18p.1 m18q-18q.1 m180-19s.1 m181-19s.1 m18p-19s.1 ",
   "mw-18s-18x.1 mw-18t-18x.1 mw-18u-18x.1 mw-18v-18x.1 mw-18w-18x.1 mw-18x-19s.1 m17q-181.1 ",
   "m17q-182.1 m17q-18l.1 m17q-18m.1 m17q-18p.1 m17q-18q.1 m17s-181.1 m17s-182.1 m17s-18l.1 ",
   "m17s-18m.1 m17s-18p.1 m17s-18q.1 m17u-181.1 m17u-182.1 m17u-18l.1 m17u-18m.1 m17u-18p.1 ",
   "m17u-18q.1 m17v-181.1 m17v-182.1 m17v-18l.1 m17v-18m.1 m17v-18p.1 m17v-18q.1 m18h-18p.1 ",
   "m18h-18q.1 m18i-18p.1 m18i-18q.1 m18j-17r.1 m18j-18k.1 m18j-18l.1 m18j-18p.1 m18j-18q.1 ",
   "m18k-18l.1 m18k-18p.1 m18k-18q.1 m18l-17r.1 m18l-18l.1 m18m-181.1 m18m-182.1 m18m-18l.1 ",
   "m18m-18m.1 m18m-18p.1 m18m-18q.1 m18p-19s.1 m18q-181.1 m18q-182.1 m18q-18l.1 m18q-18m.1 ",
   "m18q-18p.1 m18q-18q.1 m17q-17w.1 m17q-17x.1 m17q-17y.1 m17q-18l.1 m17q-18n.1 m17s-17w.1 ",
   "m17s-17x.1 m17s-17y.1 m17s-18l.1 m17s-18n.1 m17u-17w.1 m17u-17x.1 m17u-17y.1 m17u-18l.1 ",
   "m17u-18n.1 m17v-18l.1 m17w-17x.1 m17w-18l.1 m17x-17w.1 m17x-18l.1 m17y-17w.1 m17y-18l.1 ",
   "m183-17w.1 m183-17x.1 m183-17y.1 m183-18l.1 m185-17x.1 m185-17y.1 m185-18l.1 m186-17w.1 ",
   "m186-17x.1 m186-17y.1 m186-18l.1 m187-17x.1 m188-18l.1 m189-17w.1 m189-18l.1 m18a-17w.1 ",
   "m18a-18l.1 m18h-17w.1 m18h-17x.1 m18h-17y.1 m18h-18l.1 m18i-17x.1 m18i-18l.1 m18j-17w.1 ",
   "m18j-17x.1 m18j-17y.1 m18j-18k.1 m18j-18l.1 m18k-17w.1 m18k-17x.1 m18k-17y.1 m18k-18l.1 ",
   "m18k-18n.1 m18l-17w.1 m18l-17x.1 m18l-17y.1 m18l-18l.1 m18m-17w.1 m18m-17x.1 m18m-17y.1 ",
   "m18m-18l.1 m18m-18n.1 m18n-17w.1 m18n-18l.1 m18n-19s.1 m18q-17w.1 m18q-17x.1 m18q-17y.1 ",
   "m18q-18l.1 m18q-18n.1 m17q-18l.1 m17q-18n.1 m17s-18l.1 m17s-18n.1 m17u-18l.1 m17u-18n.1 ",
   "m17v-18l.1 m17v-18n.1 m183-18l.1 m183-18n.1 m184-18l.1 m184-18n.1 m18j-18k.1 m18j-18l.1 ",
   "m18k-18l.1 m18m-18l.1 m18m-18n.1 m18q-18l.1 m18q-18n.1 m18g-18u-18x.1 m18g-18v-18x.1 ",
   "m18g-18w-18x.1 m187-18p.1 m187-18q.1 m189-18p.1 m189-18q.1 m18a-18p.1 m18a-18q.1 ",
   "m183-18p.1 m183-18q.1 m184-18p.1 m184-18q.1 m17x-18p.1 m17x-18q.1 m17w-18p.1 m17w-18q.1 ",
   "m17y-18p.1 m17y-18q.1 m185-18p.1 m185-18q.1 m186-18p.1 m186-18q.1 m184-17w.1 m184-17x.1 ",
   "m184-17y.1 m184-18l.1 m184-181.1 m183-181.1 m185-181.1 m186-181.1 m187-18p.1 m187-18q.1 ",
   "m189-18p.1 m189-18q.1 m18a-18p.1 m18a-18q.1 m183-18p.1 m183-18q.1 m184-18p.1 m184-18q.1 ",
   "m17x-18p.1 m17x-18q.1 m17w-18p.1 m17w-18q.1 m17y-18p.1 m17y-18q.1 m185-18p.1 m185-18q.1 ",
   "m186-18p.1 m186-18q.1 m184-17w.1 m184-17x.1 m184-17y.1 m184-18l.1 m184-181.1 m183-181.1 ",
   "m185-181.1 m186-181.1 m184-17w.1 m184-17x.1 m184-17y.1 m184-18l.1 m183-18n.1 m184-18n.1 ",
   "m187-18l.1 m183-17w.1 m183-17x.1 m183-17y.1 m184-17w.1 m184-17x.1 m184-17y.1 m187-18l.1 ",
   "m188-18l.1 m17r-18r.2 v.i m17u-17w-18l.1 m17u-17x-17w.2 m17u-17x-18l.1 m17u-17y-18l.1 ",
   "m17u-18l-17w.1 m17u-18l-17x.1 m17u-18l-17y.1 m17w-18l-17x.2 m17x-18l-18q.1 m17x-18l-18p.1 ",
   "m183-17x-17w.1 m183-17w-17x.1 m183-17w-18p.1 m183-18l-17x.2 m183-18l-17w.1 m183-18l-18l.2 ",
   "m185-17x-17x.2 m185-18l-18l.1 m184-17x-18l.2 m184-17w-18q.1 m184-18l-17y.2 m184-18l-18l.2 ",
   "m186-17x-18p.1 m186-17y-18l.2 m187-18l-17x.2 m187-18l-18l.1 m187-18l-18q.1 m189-17w-18l.1 ",
   "m189-18l-18l.2 m189-18l-18p.1 m18a-18l-18l.1 m18a-18l-18q.1 m18a-18l-18p.1 m18h-17y-18l.2 ",
   "m18i-18l-17x.1 m18i-18l-18l.1 m18k-17x-18l.1 m18k-17x-18q.1 m18k-17x-18p.1 m18k-17w-17w.2 ",
   "m18k-17y-18l.2 m18k-18l-17x.2 m18l-17x-17w.1 m18l-17x-18l.1 m18l-17x-18q.1 m18l-17w-17x.1 ",
   "m18l-17w-18l.1 m18l-17y-17w.1 m18l-17y-18l.1 d.2 m18l-17w-17y.1 m18n-18l-17w.1 ",
   "m18n-18l-18l.1 m18m-17x-18l.1 m18m-17x-18p.1 m18m-17w-18l.2 m18m-17w-18p.1 m18m-18l-18q.1 ",
   "m18m-18l-18p.1 m18q-18l-18l.2 m17s-17y-18q.1 m17u-17w-18q.1 m17u-17w-18p.1 m17u-17y-18q.1 ",
   "m17u-17y-18p.1 m17u-18l-18q.1 m17u-18l-18p.1 m17w-18l-18q.1 m17w-17x-18p.1 m17w-18l-18p.1 ",
   "m183-17y-18p.1 m185-17x-18q.1 m184-17x-18q.1 m186-17x-18q.1 m18k-17w-18q.1 m18k-18l-18q.1 ",
   "m18q-17x-18q.1 m18q-17w-18q.1 m18q-18l-18q.1 m18l-18l-18q.1 m18i-18l-18q.1 m18m-17x-18q.1 ",
   "m18i-18l-17x.1 m18k-17x-18l.1 m189-18l-18q.1 m18j-18l-18q.1 m18m-17w-17x.1 m18l-17y-18q.1 ",
   "m18k-17w-18l.1 m18j-18l-18l.1 m18k-17w-18l.1 m18m-17w-17x.1 m17w-17x-18q.1 m17x-17w-18q.1 ",
   "m18l-17w-18q.1 m18h-18l-18q.1 m17s-17x-18q.1 m18j-18l-18l.1 m189-17w-18l.1 m185-18l-18l.1 ",
   "m183-17y-18q.1 m18m-17w-18q.1 d.7 v.1 d.w m185-18k-1ci.1 m18i-18k-1ci.1 m17r-18k-18k-18n.1 ",
   "m17r-18j-17s-181.1 m18l-17x-18l-17z.1 m185-18k-189-18l.1 m181-183-18o-18k.1 ",
   "m189-18k-18q-18n.1 m18o-183-18k-18l.1 m185-18k-18p.1 ",
   "m185-18k-18p-w-17r-18k-18k-18n-w-189-18k-18q-18n-w-18o-183-18k-18l.1 ",
   "m17w-18k-w-17w-18k-17r-18k-18n.1 m181-1cc-17r-18k.1 v.3 i.g m18.1 m9hd.1 d.1 n1e55.2 mx.1 ",
   "m1r.1 n14ox.2 d.7 v.g d.1 m6c4.1 m6c3.1 m2n.2 n1e6l.2 m3f.1 m3h.1 n14px.2 n14q3.2 n14qb.2 ",
   "n14qf.2 n14qd.4 v.2 m2j.1 m2l.1 mw-lh.4 m2n.3 m18.1 m9hd.1 d.2 m1n.1 m1m.1 m1r.1 mx.1 ",
   "m6c4.1 n1e7l.2 m3f.1 m3h.1 n14qx.2 mz.1 m12.1 n1e7r.2 m19.1 m1o.1 m1q.1 m1p.1 d.1 m2k.1 ",
   "n1e85.2 m1s.1 d.4 mw-18r.1 m18g-18r.1 mw-18s.1 v.1 mw-18t.1 d.1 mw-18u.1 m18g-18u.1 ",
   "mw-18v.1 m18g-18v.1 mw-18w.1 m18g-18w.1 mw-18x.1 m18g-18x.1 mw-18y.1 m18g-18y.1 n1d27.2 ",
   "n1d28.2 n1d29.2 n1d2a.2 n1d2b.2 m17q.3 m17r.2 m17s.4 m17t.2 m17u.4 m17v.4 m17w.4 m17x.4 ",
   "m17y.4 m17z.2 m180.2 m181.2 m182.2 m183.4 m184.4 m185.4 m186.4 m187.4 m188.4 m189.4 m18a.4 ",
   "m18h.4 m18i.4 m18j.4 m18k.4 m18l.4 m18m.4 m18n.4 m18o.2 m18p.2 m18q.4 m18k-17m.2 ",
   "m18k-17n.2 m18k-17p.2 m18k-17r.2 d.2 i.1 d.1 n1ecg.w n1ebk.q n1ecg.10 n168q.2 m1a.1 ",
   "n14ye.2 m9hd.1 m9ob.1 m9o2.1 m9lt.1 m9lv.1 m9lx.1 m9lz.1 m9m1.1 m9nn.1 m9np.1 m9nr.1 ",
   "m9mr.1 m9oc.1 m9lu.1 m9lw.1 m9ly.1 m9m0.1 n14uj.2 m9m5.1 m9m7.1 m9m9.1 m9mb.1 m9md.1 ",
   "m9mf.1 m9mh.1 m9mj.1 m9ml.1 m9mn.1 m9mp.1 m9ms.1 m9mu.1 m9mw.1 n14u3.6 m9n6.1 m9n9.1 ",
   "m9nc.1 m9nf.1 n14tt.5 m9no.1 m9nq.1 n14tq.6 m9nz.1 m9o3.1 n14w5.2 i.1 n1b4x.2 m3hm.1 ",
   "m3cy.1 n1b09.2 n1b50.3 n1b0a.6 m3dm.1 n1b57.3 m3dt.1 n1b58.a d.3 n1b35.6 d.2 n1b37.6 d.2 ",
   "n1b39.6 d.2 n1b3b.3 d.3 n1ef2.2 m4s.1 mw-lg.1 m4m.1 m4l.1 m6g9.1 d.1 m7b6.1 n17x5.4 m7fk.1 ",
   "m7gr.1 d.h v.c d.1 v.q d.1 v.j d.1 v.2 d.1 v.f d.2 v.e d.y v.3f d.5 v.3 d.4 v.19 d.3 v.2g ",
   "d.1 v.d d.3 v.1 d.1b v.1a d.3m v.t d.3 v.1d d.f v.s d.4 v.10 d.9 v.u d.5 v.17 d.5 v.u d.1 ",
   "v.11 d.4 v.e d.16 s14.14 v.3a d.2 v.a d.6 s14.10 d.4 v.10 d.4 v.14 d.8 v.1g d.b v.1 s13.b ",
   "d.1 s13.f d.1 s13.7 d.1 s13.2 d.1 v.b d.1 v.f d.1 v.7 d.1 v.2 d.3 v.1g d.c v.8n d.9 v.m ",
   "d.a v.8 d.o v.1 n1fht.2 m6e.1 mih.1 mgj.1 d.1 mir.1 mxuu.1 mit.1 mis.1 n1flh.2 m5u9.1 ",
   "mgo.1 mgu.1 mix.1 mh0.1 mgy.1 mgw.1 mij.1 m87.1 mik.1 mh3.1 mhw.1 n1fjj.2 mh8.1 m2mmc.1 ",
   "mx3i.1 mha.1 m2mmd.1 mi6.1 m2mme.1 m6w.1 n1fl9.2 m35.1 mhm.1 m2mmg.1 n1fl7.2 mhs.1 miw.1 ",
   "miu.1 mxuv.1 miv.1 mi0.1 m8s1.1 d.1 mi7.1 n1fki.2 mig.1 n1fqu.3 m2mmi.1 m2mn2.1 d.1x v.6 ",
   "d.2 v.1 d.1 v.18 d.1 v.2 d.3 v.1 d.2 v.n d.1 v.20 d.8 v.9 d.1c v.j d.1 v.2 d.5 v.x d.3 v.r ",
   "d.5 v.1 d.1s v.1k d.4 v.k d.2 v.1e d.1 v.2 d.5 v.8 d.1 v.3 d.1 v.t d.2 v.3 d.4 v.a d.7 v.9 ",
   "d.7 v.1s d.w v.13 d.4 v.c d.9 v.1i d.3 v.t d.2 v.r d.5 v.q d.7 v.4 d.c v.7 d.28 v.21 d.1j ",
   "s1s.1f d.d v.1f d.7 v.1a d.8 v.a d.6 v.g sw.m d.3 v.t d.8 v.2 d.5s v.v d.1 v.16 d.1 v.3 ",
   "d.2 v.2 d.g v.3 d.1j v.18 d.8 v.16 d.m v.q d.12 v.s d.k v.n d.9 v.26 d.4 v.10 d.9 v.1q d.1 ",
   "v.5 d.d v.p d.7 v.a d.6 v.1h d.1 v.i d.8 v.13 d.9 v.2o d.1 v.k d.b v.i d.1 v.1b d.1q v.7 ",
   "d.1 v.1 d.1 v.4 d.1 v.f d.1 v.b d.6 v.1n d.5 v.a d.6 v.4 d.1 v.8 d.2 v.2 d.2 v.m d.1 v.7 ",
   "d.1 v.2 d.1 v.5 d.1 v.a d.2 v.2 d.2 v.3 d.2 v.1 d.6 v.1 d.5 v.7 d.2 v.7 d.3 v.5 d.b v.a ",
   "d.1 v.1 d.2 v.1 d.1 v.12 d.1 v.a d.1 v.1 d.2 v.1 d.1 v.4 d.1 v.a d.1 v.2 d.8 v.2 d.t v.2k ",
   "d.1 v.5 d.u v.20 d.8 v.a d.4m v.1i d.2 v.12 d.y v.1x d.b v.a d.6 v.d d.j v.1m d.6 v.a d.6 ",
   "v.k d.s v.r d.2 v.f d.4 v.n d.55 v.1o d.2s sw.w v.1f d.c v.8 d.2 v.1 d.2 v.8 d.1 v.2 d.1 ",
   "v.u d.1 v.2 d.2 v.c d.9 v.a d.1y v.8 d.2 v.1a d.2 v.b d.r v.20 d.8 v.2b d.d v.21 d.7 v.a ",
   "d.52 v.y d.e v.a d.6 v.9 d.1 v.19 d.1 v.e d.a v.t d.3 v.w d.2 v.m d.1 v.e d.21 v.7 d.1 v.2 ",
   "d.1 v.18 d.3 v.1 d.1 v.2 d.1 v.9 d.8 v.a d.6 v.6 d.1 v.2 d.1 v.11 d.1 v.2 d.1 v.6 d.7 v.a ",
   "d.8m v.p d.7 v.h d.1 v.15 d.3 v.t d.2d v.1 d.f v.1e d.d v.pn d.2u v.33 d.1 v.5 d.b v.5g ",
   "d.218 v.2r d.d v.ts d.g v.m d.a v.32z d.5 v.g7 d.5a1 v.1m d.1c6 v.ft d.7 v.v d.1 v.a d.4 ",
   "v.29 d.1 v.a d.6 v.u d.2 v.6 d.a v.1y d.a v.a d.1 v.7 d.1 v.l d.5 v.j d.c0 v.1m d.5i sw.w ",
   "v.1n d.2t v.23 d.4 v.1l d.7 v.h d.1s v.5 d.b v.2 d.e v.4qg d.8 v.ye d.15 v.a d.6w7 v.4 d.1 ",
   "v.7 d.1 v.2 d.1 v.83 d.f v.1 d.t v.3 d.2 v.1 d.e v.4 d.8 v.b0 d.1s4 v.2z d.5 v.d d.3 v.9 ",
   "d.7 v.a d.2 v.4 i.4 d.318 v.5y n2iyd.q n2j0g.a d.6 v.c4 d.24 v.1a d.2 v.n d.9 v.38 d.1o ",
   "v.6u d.a v.13 d.2 v.1h m2jx3-2jxh.1 m2jx4-2jxh.1 m2jx4-2jxh-2jxq.1 m2jx4-2jxh-2jxr.1 ",
   "m2jx4-2jxh-2jxs.1 m2jx4-2jxh-2jxt.1 m2jx4-2jxh-2jxu.1 v.e i.8 v.1s m2jzt-2jxh.1 ",
   "m2jzu-2jxh.1 m2jzt-2jxh-2jxq.1 m2jzu-2jxh-2jxq.1 m2jzt-2jxh-2jxr.1 m2jzu-2jxh-2jxr.1 v.16 ",
   "d.l v.1y d.3e v.k d.c v.k d.c v.2f d.9 v.p d.3r n2kdb.q n2ke1.q n2ker.q n2kfh.7 d.1 ",
   "n2kfh.i n2kg7.q n2kgx.q m2p.1 d.1 n2khn.2 d.2 m2v.1 d.2 n2khn.2 d.2 n2khn.4 d.1 n2khn.8 ",
   "n2kid.4 d.1 m2u.1 d.1 n2kid.7 d.1 n2kid.b n2kj3.q n2kjt.q n2kkj.2 d.1 n2kkj.4 d.2 n2kkj.8 ",
   "d.1 n2kkj.7 d.1 n2kl9.q n2klz.2 d.1 n2klz.4 d.1 n2klz.5 d.1 m33.1 d.3 n2klz.7 d.1 n2kmp.q ",
   "n2knf.q n2ko5.q n2kov.q n2kpl.q n2kqb.q n2kr1.q n2krr.q n2ksh.q n2kt7.q n2ktx.q n2kun.q ",
   "n2kvd.q m8h.1 mfr.1 d.2 n2k8n.h mqg.1 n2k8n.7 m6pz.1 n2k9d.h mqr.2 n2k9d.6 m6pu.1 mqd.1 ",
   "mqg.1 mqi.1 mqu.1 mqp.1 mqo.1 n2ka9.h mqg.1 n2ka9.7 m6pz.1 n2kaz.h mqr.2 n2kaz.6 m6pu.1 ",
   "mqd.1 mqg.1 mqi.1 mqu.1 mqp.1 mqo.1 n2kbv.h mqg.1 n2kbv.7 m6pz.1 n2kcl.h mqr.2 n2kcl.6 ",
   "m6pu.1 mqd.1 mqg.1 mqi.1 mqu.1 mqp.1 mqo.1 n2kdh.h mqg.1 n2kdh.7 m6pz.1 n2ke7.h mqr.2 ",
   "n2ke7.6 m6pu.1 mqd.1 mqg.1 mqi.1 mqu.1 mqp.1 mqo.1 n2kf3.h mqg.1 n2kf3.7 m6pz.1 n2kft.h ",
   "mqr.2 n2kft.6 m6pu.1 mqd.1 mqg.1 mqi.1 mqu.1 mqp.1 mqo.1 mrh.2 d.2 n2l5q.a n2l60.a n2l6a.a ",
   "n2l6k.a n2l6u.a v.i4 d.f v.5 d.1 v.f d.uo v.v d.6 v.6 d.5x v.7 d.1 v.h d.2 v.7 d.1 v.2 d.1 ",
   "v.5 d.5 n2m0w.9 n2m0v.3 n2m0u.b muj.1 n2m0r.2 mww9.1 myh.1 muu.1 muw.1 myx.1 mxb.1 my7.1 ",
   "n2m1t.9 n2m1s.2 n2m1q.2 mu9.1 n2m1o.6 n2m1n.2 mwh.1 muu.1 mut.1 mv3.1 mx7.1 mwup.1 mxd.1 ",
   "d.x v.1 d.34 v.19 d.3 v.e d.2 v.a d.4 v.2 d.8w v.v d.h v.1m d.5 v.1 d.cw v.16 d.5y v.17 ",
   "d.4 v.1 d.dc v.7 d.1 v.4 d.1 v.2 d.1 v.f d.1 v.5h d.2 v.g d.15 sy.y v.16 d.4 v.a d.4 v.2 ",
   "d.lt v.1w d.24 v.1p d.5e n2od5.2 m17w.1 m17z.1 d.1 m18o.1 m182.1 m17x.1 m187.1 m18q.1 ",
   "n2ocn.4 m183.1 m189.1 m18h.1 m185.1 m18i.1 m181.1 m184.1 n2odn.2 m17y.1 m180.1 m186.1 ",
   "m188.1 m18a.1 m19q.1 m1bu.1 m1b5.1 m19r.1 d.1 m17s.1 m17w.1 d.1 m18n.1 d.2 m17x.1 d.1 ",
   "m18q.1 n2odj.4 m183.1 m189.1 m18h.1 m185.1 m18i.1 d.1 m184.1 n2oej.2 m17y.1 d.1 m186.1 d.1 ",
   "m18a.1 d.6 m17w.1 d.4 m17x.1 d.1 m18q.1 d.1 m18k.1 d.1 m18m.1 m183.1 m189.1 d.1 m185.1 ",
   "m18i.1 d.1 m184.1 d.2 m17y.1 d.1 m186.1 d.1 m18a.1 d.1 m1bu.1 d.1 m19r.1 d.1 m17s.1 m17w.1 ",
   "d.1 m18n.1 d.2 m17x.1 m187.1 m18q.1 m18j.1 d.1 n2ofb.2 m183.1 m189.1 m18h.1 m185.1 m18i.1 ",
   "d.1 m184.1 n2ogb.2 m17y.1 d.1 m186.1 m188.1 m18a.1 m19q.1 d.1 m1b5.1 d.1 n2ogp.2 m17w.1 ",
   "m17z.1 n2ofx.2 m182.1 m17x.1 m187.1 m18q.1 d.1 n2og7.3 m183.1 m189.1 m18h.1 m185.1 m18i.1 ",
   "m181.1 m184.1 n2oh7.2 m17y.1 m180.1 m186.1 m188.1 m18a.1 d.5 m17s.1 m17w.1 m17z.1 d.1 ",
   "m18o.1 m182.1 m17x.1 m187.1 m18q.1 d.1 n2oh3.3 m183.1 m189.1 m18h.1 m185.1 m18i.1 m181.1 ",
   "m184.1 n2oi3.2 m17y.1 m180.1 m186.1 m188.1 m18a.1 d.1g v.2 d.7i v.18 d.4 v.2s d.c v.f d.2 ",
   "v.f d.1 v.f d.1 v.11 d.b m1c-18.1 m1d-18.1 m1e-18.1 m1f-18.1 m1g-18.1 m1h-18.1 m1i-18.1 ",
   "m1j-18.1 m1k-18.1 m1l-18.1 v.5 m14-2p-15.1 m14-2q-15.1 m14-2r-15.1 m14-2s-15.1 m14-2t-15.1 ",
   "m14-2u-15.1 m14-2v-15.1 m14-2w-15.1 m14-2x-15.1 m14-2y-15.1 m14-2z-15.1 m14-30-15.1 ",
   "m14-31-15.1 m14-32-15.1 m14-33-15.1 m14-34-15.1 m14-35-15.1 m14-36-15.1 m14-37-15.1 ",
   "m14-38-15.1 m14-39-15.1 m14-3a-15.1 m14-3b-15.1 m14-3c-15.1 m14-3d-15.1 m14-3e-15.1 ",
   "m9hw-37-9hx.1 m2r.1 m36.1 m2r-2s.1 m3b-3e.1 v.1 n2q4v.q m2w-3a.1 m31-3a.1 m37-2s.1 ",
   "m37-37.1 m34-34-3a.1 m3b-2r.1 v.q m31-2r.1 m31-2s.1 m31-36.1 v.z m2s-2y.1 v.t d.1k v.q ",
   "m9kr-9jf.1 m9mb-9mb.1 m9md.1 d.d mjez.1 mi1j.1 mgjw.1 m9mv.1 mfik.1 mhlm.1 mr8j.1 mhm1.1 ",
   "mfj8.1 mk68.1 mmch.1 mk2h.1 mg99.1 mivg.1 mg3x.1 mk34.1 mg7x.1 moqq.1 mn4v.1 mrs9.1 mhkg.1 ",
   "mgmx.1 mlxw.1 mjh1.1 mjmd.1 mfeo.1 mfex.1 msi2.1 mijq.1 mffx.1 mgkz.1 mjk7.1 mrxs.1 mjf7.1 ",
   "mo01.1 mo6y.1 mglk.1 mlts.1 mkcp.1 mkco.1 mn5f.1 mgaa.1 mgxi.1 msp9.1 d.4 m9hw-kdo-9hx.1 ",
   "m9hw-fex-9hx.1 m9hw-fik-9hx.1 m9hw-i2x-9hx.1 m9hw-m9l-9hx.1 m9hw-jf7-9hx.1 m9hw-nh3-9hx.1 ",
   "m9hw-gd9-9hx.1 m9hw-k0n-9hx.1 d.7 mivr.1 mgkv.1 d.e v.6 d.4a v.rc d.4 v.h d.3 v.d d.3 v.3b ",
   "d.4 v.2n d.6 v.c d.4 v.1 d.f v.c d.4 v.1k d.8 v.a d.6 v.14 d.8 v.u d.2 v.c d.4 v.2 d.1q ",
   "v.9g d.c v.e d.2 v.d d.3 v.a d.5 v.1k d.7 v.f d.2 v.b d.6 v.9 d.7 v.43 d.1 v.2k n2sao.a ",
   "d.sm v.wyo d.w v.37e d.6 v.66 d.2 v.4g2 d.e v.5rl d.f v.ha d.1wi mfgd.1 mfg8.1 mfgh.1 ",
   "m2tcy.1 mfog.1 mfqm.1 mfqz.1 mfsy.1 mfwa.1 mfx5.1 mfzb.1 mfyn.1 mae6.1 m2ud6.1 mg25.1 ",
   "mg2c.1 mg2s.1 mg3b.1 m2u58.1 maex.1 mg2v.1 mg3x.1 m2u6j.1 mg47.1 mg4k.1 mfkc.1 mg4s.1 ",
   "mg51.1 m3ly7.1 mg6t.1 mg77.1 mafz.1 mg8r.1 mg92.1 mgaa.1 mgaf.1 mahh.1 mgcn.1 mgcp.1 ",
   "mgdg.1 mge2.1 n3pr8.2 mgev.1 mgg9.1 mggh.1 mggq.1 mghf.1 mghp.1 mghr.3 m2v58.1 mm7k.1 ",
   "mgju.1 mgkf.1 m2vdv.1 mgkr.1 mgkx.1 mgli.1 mgpq.1 mgmw.1 mgnc.1 mgo8.1 mgpu.1 mgs6.1 ",
   "mgsw.1 mgur.1 mgv7.1 mgw4.2 mgwp.1 mgx7.1 mgxf.1 mgxu.1 mh7a.1 mgzq.1 mh7b.1 mh1t.1 mh2s.1 ",
   "mg7b.1 mhke.1 mhce.1 mhdg.1 mhe5.1 mhaj.1 mhf6.1 mhf5.1 mhik.1 m2x9g.1 mhki.1 mhkn.1 ",
   "mhl2.1 mhlm.1 mhlu.1 mhnm.1 m2xm0.1 m2xnu.1 mhrg.1 mhsr.1 mht3.1 mhqw.1 mhuu.1 maum.1 ",
   "mav0.1 mhzc.1 mi0u.2 m2y88.1 mi4j.1 mi54.1 mi5j.1 mi5v.1 m2yhk.1 mi67.1 mi6e.1 mitv.1 ",
   "mi76.1 mayp.1 mi8w.1 mi9a.1 mibk.1 mia5.1 m2z1g.1 mif7.1 m2z1i.1 mige.1 migb.1 migs.1 ",
   "n3nog.2 mb3j.1 mikd.1 milk.1 mim5.1 mind.1 mb4y.1 m2zr7.1 mb5o.1 mipc.1 mipf.1 mipi.1 ",
   "miq2.1 m3pg2.1 miri.1 m3035.2 mpoh.1 misi.2 mb7r.1 m335k.1 m3cgq.1 miua.1 miuj.1 mb8j.1 ",
   "mivu.1 mix9.1 mixj.1 miyh.1 mj29.1 mbay.1 mba4.1 mj2s.1 m30t0.1 mj47.1 mj7s.1 mj7w.1 ",
   "mj7y.1 mj7w.1 mj96.1 mj9q.1 mjaq.1 mjac.1 mjan.1 mjby.1 mjci.1 mjcm.1 mjdc.1 mjdn.1 mjfh.1 ",
   "mjht.1 mjis.1 mjm8.1 m31n0.1 mjlp.1 mjjw.1 mjmw.1 mjnn.1 mjqc.1 m31td.1 mjs2.1 mjph.1 ",
   "mjop.1 mbhq.1 mju1.1 mjum.1 mjvh.1 mjuf.1 mbjg.1 mk0f.1 mk18.1 m32mi.1 mk4j.1 mkc8.1 ",
   "mk7d.1 mbo9.1 mk9d.1 mbns.1 mbms.1 mg42.1 mg45.1 mkcg.1 mk9o.1 mpf1.1 mdeh.1 mkd3.1 mkd7.1 ",
   "mkdd.1 mkf2.1 mker.1 m33cz.1 mbpl.1 mkje.1 mkg5.1 mklu.1 mkn9.1 m33hp.1 mkni.1 mkkf.1 ",
   "mkr8.1 mbrx.1 mksi.1 mkv7.1 mkx6.1 ml2g.1 m33xf.1 ml3v.1 mbvc.1 ml5t.1 m34br.1 ml78.1 ",
   "mbwu.1 ml82.1 ml9b.1 n3l17.2 m34p9.1 m2yvf.1 m34sa.1 mle6.1 m354s.1 mlhb.1 mlhp.1 mlev.1 ",
   "mljq.1 mlku.1 mlmf.1 mlkx.1 mlm1.1 mlmg.1 mlmt.1 m357i.1 mlkk.1 mlrj.1 mlta.1 mc37.1 ",
   "mlvv.1 mlvr.1 m35jl.1 mlq1.1 mm0e.1 m35ni.1 m35ou.1 mm2u.1 mm61.1 mm5a.1 mm57.1 mc5y.1 ",
   "mm6i.1 mm7x.1 mm7r.1 mm99.1 m2u5h.1 mmdh.1 m368z.1 mmfw.1 m36i3.1 mmjs.1 mmk5.1 mmkw.1 ",
   "m36yw.1 mmm8.1 mmmt.1 m3779.1 m37dg.1 mmt6.1 mmtn.1 mcdo.1 mmud.1 mce0.2 mmyv.1 mmzg.1 ",
   "mn01.1 mn0l.1 mn2i.1 mcgr.1 mn50.1 m386u.1 mn5q.1 m389e.1 mn74.1 m2zrz.1 mnbk.1 m38v5.1 ",
   "m38vs.1 m38zo.1 mcn0.1 mcnc.1 mnhw.1 m394j.1 m394i.1 m395l.1 m396b.1 n3iuf.2 mnj3.1 mnka.1 ",
   "mcop.1 mnm3.1 mcp2.1 mcra.1 m39r1.1 mnri.1 mnt8.1 mnv0.1 mctf.1 m3a5i.1 mnyu.1 m3a8q.1 ",
   "m3a9x.1 mo0f.1 mo2z.1 mcvj.1 mo5c.1 mo5m.1 mo5r.1 m3at8.1 m3b1j.2 moa6.1 md1e.1 m3b8r.1 ",
   "mog6.1 mog9.1 md2f.1 m3beo.1 monm.1 md5s.1 moo8.1 moo3.1 moow.1 m3c06.1 morn.1 md8h.1 ",
   "mouf.1 mow2.1 moxx.1 md9w.1 m3ciw.1 m3cjr.1 mdax.1 m3cnt.1 mp6i.1 m3cqm.1 mp79.1 mpa2.1 ",
   "mpad.1 m3d22.1 m3d43.1 mpcw.1 m3d7s.1 mpdc.1 m33a7.1 mded.1 mpf6.1 mphf.1 mdfv.1 mpj2.1 ",
   "mhx1.1 m3dlz.1 m3dmd.1 m33bn.1 m33bw.1 mpoh.1 mpok.1 msda.1 mdij.1 mpsh.1 mpsb.1 mpst.1 ",
   "mgc3.1 mptd.1 mptf.1 mptp.1 mpuu.1 m3ebg.1 mput.1 mpwd.1 mpyb.1 mq0d.1 mpwj.1 mq0t.1 ",
   "mq1z.1 mq53.1 mpxv.1 mq16.1 mq18.1 mq1o.1 m3eie.1 m3eqz.1 m3emt.1 mdnv.1 mq9d.1 mq9f.1 ",
   "mqae.1 m3g0a.1 mqck.1 m3f3g.1 mdp9.1 mdpd.1 m3f75.1 m3ff6.1 mdpn.1 mqj4.1 mqjg.1 mqjr.1 ",
   "mqjt.1 mqll.1 mqko.1 mqoe.1 mqn6.1 mqrd.1 mqp4.1 mqqz.1 mqrq.1 mdsn.1 mqu9.1 mqv5.1 mdtl.1 ",
   "mqxs.1 mqxv.1 m3giv.1 mr13.1 mr1a.1 mdv9.1 mr22.1 maez.1 m3gz2.1 m3h46.1 mdz2.1 mdzb.1 ",
   "mrds.1 mrfx.1 mrka.1 mrpx.1 m3hrc.1 mrsb.1 mrsx.1 mrvf.1 mrxz.1 m3i9b.1 m2upw.1 ms0b.1 ",
   "mrzw.1 ms1c.1 m2uvy.1 ms7o.1 msag.1 m3jki.1 m3jl9.1 msk4.1 msmp.1 msnl.1 m3ju6.1 msnv.1 ",
   "msvs.1 n3dht.2 msxo.1 mt89.1 mt91.1 m3ksa.1 mtjf.1 mej9.1 mtkn.1 m3l2v.1 meli.1 mts3.1 ",
   "miia.1 mtur.1 m3ltx.1 m3lzu.1 mepa.1 mepi.1 mu00.1 m3mdm.1 mer6.1 m3mhi.1 mu17.2 mu21.1 ",
   "m3mpi.1 mu76.1 meur.1 mu95.1 mucn.1 mude.1 muf2.1 mez2.1 m3nsg.1 mumq.1 muv4.1 mv0d.1 ",
   "mf66.1 mf71.1 mv3b.1 m3owe.1 mf7c.1 m3oxx.1 m3p5a.1 m3p8x.1 mvcr.1 mf9y.1 mveh.1 mvem.1 ",
   "mvet.1 mvf3.1 mvfa.1 mvgb.1 m3pxc.1 d.15u v.3t7 d.5 v.38g d.f9e8 i.6o d.47bk"])

/-- The status of a character. -/
def ofChar (c : Char) : Status := table.valueAt disallowed c.toNat

end Status

end ServiceLocation.Idna
