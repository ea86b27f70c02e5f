/-!
What becomes of the characters of a domain's name, run by run from U+0080 on. Numbers are in base 36.
-/

namespace ComplexityLint.Uri.Domain

/-- The table of the mapping: `k`, `r` and `d` keep, refuse and drop a number of characters, `a`
turns every other one of them into the one behind it, `s` moves a number of them to where the second
number says, and `t` turns one into the characters that follow. What comes behind is refused. -/
def mappingTable : String :=
  "rw tw k7 tw.lk k1 t2p k2 d1 k1 tw.lg k2 s2.1e tw.ld tqk k2 tw.mf t1d t33 k1 t1d.6dg.1g
   t1d.6dg.1e t1f.6dg.1g k1 sn.68 k1 s7.6w kx a1c t2x.lj k1 t2x.2y t2x.2y a4 k1 a6 t30.53 t30.53 a8
   tjg.32 a1a t73 a6 t37 k1 tgj a4 tgk taw k1 s2.gm tb0 k2 td9 tgp tgr tb6 k1 tgw tgz k1 th5 th4
   tbd k3 thb the k1 thh a6 ths tbs k1 thv k2 tbx k1 ti0 tc0 k1 s2.i2 a4 tia tc9 k3 tcd k7 t2s.am
   t2s.am t2s.am t30.2y t30.2y t30.2y t32.2y t32.2y t32.2y ag k1 ai k1 t2s.3e t2s.3e t2s.3e tdx k1
   tb9 tcf a14 tbi k1 ai k6 t8rp tfw k1 tbe t8rq k2 tg2 k1 tao ti1 ti4 aa k2o t2w th2 t2y t36 thl
   thn tht t3b t3d kv tw.li tw.lj tw.lm tw.mg tw.lf tw.ln k2 tgz t30 t37 t3c tid k2j s2.lc k1 tlv
   tlk.ld tqh k9 d1 kw a4 tjd k1 ton k1 r2 tw.qh k3 t1n ts3 r4 tw.ld tw.lk.ld tq4 t53 s3.q5 r1 tr0
   r1 s2.r1 k1 sh.q9 r1 s9.qr kz trb tqa tqg tqt tr1 tqz tqu tqo k1 ao tqi tqp tqr k1 tqg tqd k1
   ts8 k1 tqr tsb k2 s3.or sg.uo sw.ts k1c ay k8 a1i ty7 ae k1 a2o r1 s12.129 r2 k1a t12d.136 k3 r2
   k3 r1 k1j r8 kr r4 k6 rh km r1 k2g t17r.19w t18o.19w t1c7.19w t18q.19w k2s r1 k1c r2 k1n r2 k2t
   re k1n r2 k1d r2 kf r1 ks r2 k1 r1 kb r5 kw r7 k23 r1 k39 t1sl.1to t1sm.1to t1sn.1to t1ss.1to
   t1sx.1to t1sy.1to t1t7.1to t1tb.1to k10 r1 k8 r2 k2 r2 km r1 k7 r1 k1 r3 k4 r2 k9 r2 k2 r2 k4 r8
   k1 r4 t1wh.1x8 t1wi.1x8 r1 t1wv.1x8 k4 r2 kp r2 k3 r1 k6 r4 k2 r2 km r1 k7 r1 k1 t20i.20s r1 k1
   t20o.20s r1 k2 r2 k1 r1 k5 r4 k2 r2 k3 r3 k1 r7 t1zq.20s t1zr.20s t1zw.20s k1 r1 t20b.20s r7 kh
   ra k3 r1 k9 r1 k3 r1 km r1 k7 r1 k2 r1 k5 r2 ka r1 k3 r1 k3 r2 k1 rf k4 r2 kc r7 k7 r1 k3 r1 k8
   r2 k2 r2 km r1 k7 r1 k2 r1 k5 r2 k9 r2 k2 r2 k3 r7 k3 r4 t275.27w t276.27w r1 k5 r2 ki ra k2 r1
   k6 r3 k3 r1 k4 r3 k2 r1 k1 r1 k2 r3 k2 r3 k3 r3 kc r4 k5 r3 k3 r1 k4 r2 k1 r6 k1 re kl r5 kd r1
   k3 r1 kn r1 kg r2 k9 r1 k3 r1 k4 r7 k2 r1 k3 r1 k2 r2 k4 r2 ka r7 km r1 k3 r1 kn r1 ka r1 k5 r2
   k9 r1 k3 r1 k4 r7 k2 r5 k3 r1 k4 r2 ka r1 k3 rc kd r1 k3 r1 k1f r1 k3 r1 k6 r4 kg r2 kq r1 k3 r1
   ki r3 ko r1 k9 r1 k1 r2 k7 r3 k1 r4 k6 r1 k1 r1 k8 r6 ka r2 k3 rc k1e t2tp.2sy k7 r4 kt r11 k2
   r1 k1 r1 k5 r1 ko r1 k1 r1 kc t2x9.2wi ka r2 k5 r1 k1 r1 k7 r1 ka r2 t2wb.2vt t2wb.2w1 k2 rw kc
   t2yz k1i t30i.33r k4 r1 k4 t30s.33r k4 t30x.33r k4 t312.33r k4 t317.33r kc t30g.33p k3 r4 k2
   t31t.31u k1 t31t.31w t33m.328 t33m.31t.328 t33n.328 t33n.31t.328 k7 t31t.328 kh t32q.33r k4 r1
   k4 t330.33r k4 t335.33r k4 t33a.33r k4 t33f.33r kc t32o.33p k3 r1 kf r1 kd r11 k4g s12.8w0 r1
   t8x3 r5 t8x9 r2 k18 t3bw k2q d2 k6g r1 k4 r2 k7 r1 k1 r1 k4 r2 k15 r1 k4 r2 kx r1 k4 r2 k7 r1 k1
   r1 k4 r2 kf r1 k1l r1 k4 r2 k1v r2 kw r3 kq r6 k2e r2 s6.3xs r2 khs r1 ks r3 k2h r7 km r9 ko r9
   kk rc kd r1 k3 r1 k2 rc k1g d2 k14 r2 ka r6 ka r6 kb d5 ka r6 k2h r7 k17 r5 k1y ra kv r1 kc r4
   kc r4 k1 r3 k16 r2 k5 rb k18 r4 kq r6 kb r3 k1q r2 k1t r1 kt r2 kb r6 ka r6 ke r2 k1a r2 kc rk
   k25 r1 k4m r8 k1o r3 kf r3 k1f ttu ttw tu6 s2.u9 tua tui tv7 twuj t5my k1 r5 s17.3bk r2 s3.3ct
   k8 r8 k17 r5 k18 t2p t6e t2q k1 s2.2s td9 s8.2v k1 t33 tf7 t34 t36 s2.38 t3b t2p s2.gg t5qa t2q
   s2.2s tgp s2.gr t2v k1 t2z t31 t97 t33 tgk s2.5qu t34 s2.38 t5r1 thb t3a t5r9 s3.qa s2.qu t2x
   t36 s2.39 s2.qa tqp s2.qu kd tu5 ky tgi t2r tgl t6o tgs t2u tgv tgx th1 s3.h4 t5tn til th9 t5tx
   tin thd thc s4.he thk s2.hu tbv s2.i1 t5r0 s2.i3 t3e s3.i8 tqg k1s a46 k4 t2p.ji t601 k2 t67 k1
   a2o k8 s8.64g k6 r2 s6.64w r2 k8 s8.65c k8 s8.65s k6 r2 s6.668 r2 k8 r1 t66p r1 t66r r1 t66t r1
   t66v k8 s8.674 k1 tq4 k1 tq5 k1 tq6 k1 tq7 k1 tr0 k1 tr1 k1 tr2 r2 t64g.qh t64h.qh t64i.qh
   t64j.qh t64k.qh t64l.qh t64m.qh t64n.qh t64g.qh t64h.qh t64i.qh t64j.qh t64k.qh t64l.qh t64m.qh
   t64n.qh t65c.qh t65d.qh t65e.qh t65f.qh t65g.qh t65h.qh t65i.qh t65j.qh t65c.qh t65d.qh t65e.qh
   t65f.qh t65g.qh t65h.qh t65i.qh t65j.qh t674.qh t675.qh t676.qh t677.qh t678.qh t679.qh t67a.qh
   t67b.qh t674.qh t675.qh t676.qh t677.qh t678.qh t679.qh t67a.qh t67b.qh k2 t67k.qh tq9.qh tq4.qh
   r1 k1 t69i.qh s2.69c t67k tq4 tq9.qh tw.lv tqh tw.lv tw.n6 tw.lk.n6 t67o.qh tqf.qh tq6.qh r1 k1
   t69y.qh t67m tq5 t67o tq6 tqf.qh tw.lv.lc tw.lv.ld tw.lv.n6 k3 tpc r2 k2 s2.6a8 t67q tq7 r1
   tw.lw.lc tw.lw.ld tw.lw.n6 k3 tq8 k4 s2.6ao t67u tr1 t6at tw.lk.lc tw.lk.ld t2o r2 t67w.qh
   tqx.qh tr2.qh r1 k1 t6ba.qh t67s tr0 t67w tr2 tqx.qh tw.ld tw.lw r1 tw tw tw tw tw tw tw tw tw
   tw tw d1 k2 r2 k1 t6c0 k5 tw.mr kc r3 k1 r7 tw k3 t6cy.6cy t6cy.6cy.6cy k1 t6d1.6d1 t6d1.6d1.6d1
   k4 tx.x k1 tw.lh k8 t1r.1r t1r.x tx.1r kd t6cy.6cy.6cy.6cy k7 tw d5 r5 d6 t1c t2x r2 s6.1g t17
   t6qa t1p s2.14 t32 sa.1c t17 t6qa t1p s2.14 r1 t2p t2t t33 t3c tgp t2w s4.2z t34 s2.37 r3 k8
   t36.37 kp re kx rf t2p.1b.2r t2p.1b.37 t2r t4w.2r k1 t2r.1b.33 t2r.1b.39 tgr k1 t4w.2u s2.2v t2w
   t2w t2w t87 t2x t2x t30 t30 k1 t32 t32.33 k2 s3.34 t36 t36 k2 t37.31 t38.2t.30 t38.31 k1 t3e k1
   tqx k1 t3e k1 t2z t6d s2.2q k1 t2t s2.2t t6ku t31 t33 s4.15c t2x k1 t2u.2p.3c tqo tqb tqb tqo
   t6q9 k4 t2s s2.2s s2.2x k6 t1d.6dg.1j t1d.6dg.1l t1d.6dg.1d.1c t1d.6dg.1f t1e.6dg.1f t1d.6dg.1h
   t1e.6dg.1h t1f.6dg.1h t1g.6dg.1h t1d.6dg.1i t1h.6dg.1i t1d.6dg.1k t1f.6dg.1k t1h.6dg.1k
   t1j.6dg.1k t1d.6dg t2x t2x.2x t2x.2x.2x t2x.3a t3a t3a.2x t3a.2x.2x t3a.2x.2x.2x t2x.3c t3c
   t3c.2x t3c.2x.2x t30 s2.2r t31 t2x t2x.2x t2x.2x.2x t2x.3a t3a t3a.2x t3a.2x.2x t3a.2x.2x.2x
   t2x.3c t3c t3c.2x t3c.2x.2x t30 s2.2r t31 k3 t6mc k5 t1c.6dg.1f k2 r4 k4c t6qz.6qz t6qz.6qz.6qz
   k1 t6r2.6r2 t6r2.6r2.6r2 k6w s2.9hk k73 rm kb rl s9.1d t1d.1c t1d.1d t1d.1e t1d.1f t1d.1g t1d.1h
   t1d.1i t1d.1j t1d.1k t1d.1l t1e.1c t14.1d.15 t14.1e.15 t14.1f.15 t14.1g.15 t14.1h.15 t14.1i.15
   t14.1j.15 t14.1k.15 t14.1l.15 t14.1d.1c.15 t14.1d.1d.15 t14.1d.1e.15 t14.1d.1f.15 t14.1d.1g.15
   t14.1d.1h.15 t14.1d.1i.15 t14.1d.1j.15 t14.1d.1k.15 t14.1d.1l.15 t14.1e.1c.15 rk t14.2p.15
   t14.2q.15 t14.2r.15 t14.2s.15 t14.2t.15 t14.2u.15 t14.2v.15 t14.2w.15 t14.2x.15 t14.2y.15
   t14.2z.15 t14.30.15 t14.31.15 t14.32.15 t14.33.15 t14.34.15 t14.35.15 t14.36.15 t14.37.15
   t14.38.15 t14.39.15 t14.3a.15 t14.3b.15 t14.3c.15 t14.3d.15 t14.3e.15 sq.2p sq.2p t1c k10h
   t6qz.6qz.6qz.6qz k2v t1m.1m.1p t1p.1p t1p.1p.1p k2t t8gt.mw k47 r2 k3u s1c.8q8 k1c t8rl k1 th7
   t5tp thp k2 a6 tgh thd tgg tgi k1 t8s3 k2 t8s6 k6 t2y t3a s2.fz a2s k7 a4 k3 t8vn k1 r5 k19 r1
   k1 r5 k1 r2 k1k r7 t8yp k1 re ko r9 k7 r1 k7 r1 k7 r1 k7 r1 k7 r1 k7 r1 k7 r1 k7 r1 k3i ry kq r1
   k4 tlal k2b tvj3 rc tfeo tffs tfg6 tfgf tfh5 tfid tfik tfj4 tfju tg1r tg2t tg2z tg3m tg46 tg4r
   tg68 tg6t tg74 tgbf tge1 tget tgey tgfs tgg1 tggs tgh5 tghu tgja tgjs tgkj th5j th7j thkb thky
   thl6 thlh thlz tho3 ti1c ti2o ti60 ti6n ti76 ti7s ti9a ti9d tijf tijp tik1 tike tinm tinu tinz
   tir8 tiri tirv tis3 tits tiu9 tiur tiwz tjd4 tjee tjez tjzj tjzo tk1z tk2f tk2s tk3d tk4g tk4l
   tkc0 tkco tkdk tl5s tl7m tl89 tl9v tlaj tlas tlaz tlcf tlck tldg tm7f tmju tmk6 tmkb tmkf tmkn
   tml5 tml7 tmng tmtg tmtl tn30 tn3a tn4o tn4v tn54 tn5c tn7v tn82 tnee tnel tnfy tngf tnhq tnob
   tnoi tnoz tny2 to1k to1q to6s to97 toah tokz tooo tp4m tp5d tp6y tp8d tpa9 tpak tpaq tpbn tpdr
   tpe1 tpnn tpnu tpo3 tpoc tpos tpp7 tppb tpri tprm tprs tqj1 tqjv tqww tqx8 tqxv tr5q tr63 tr82
   tr9c trp3 trpi trpx trqw trrx trxg trxs trzn ts6j ts7e tsd7 tsds tsdx tsk1 tsp5 tssm tsss tssx
   ttiv ttj4 ttng ttrq ttrt ttt4 ttw1 ttwe ttwi ttwp ttzf tu0d tu0j tu0x tu5k tu6z tu73 tuc6 tuc9
   tucs tujs tul4 tulb tun9 tunj tunm tunw tuoq tuzp tvat tvb3 tvc5 tvcr tvcz tvd9 tvdd tveh tvel
   tvf2 tvf7 tvfk tvgb tvgq tvgy tvil tvj0 tvj4 r16 tw k1 t1a k1f t9hu k1 tgg1 s2.gg4 k5 r1 k2e r2
   k2 tw.9ll tw.9lm k2 t9l4.9l6 k2n t9mb.9mw r5 k17 r1 s2.3cw t3hm t3cy s2.3ho s3.3cz s6.3hs t3dm
   s3.3d2 t3dt sa.3d5 sl.3fl d1 s2.3dg s2.3if t3ik t3im t3ir t3iv t3ix t3do t3j1 t3j3 s2.3dp t3ds
   s2.3du t3dz t3e1 s5.3e3 t3ea t3ee t3eo t3ev t3f0 s2.3jl s3.3fb s2.3gk t3go s2.3gx t3h0 t3ha t3hd
   r1 k2 tfeo tfik tfex th5n tfey tffx tfez tn5e tfh5 tffd tfep thm1 th80 tfju k1y ra kg t14.3cw.15
   t14.3cy.15 t14.3cz.15 t14.3d1.15 t14.3d2.15 t14.3d3.15 t14.3d5.15 t14.3d7.15 t14.3d8.15
   t14.3da.15 t14.3db.15 t14.3dc.15 t14.3dd.15 t14.3de.15 t14.xz4.15 t14.yvs.15 t14.zc4.15
   t14.108s.15 t14.10p4.15 t14.115g.15 t14.1224.15 t14.12ys.15 t14.13f4.15 t14.14bs.15 t14.14s4.15
   t14.158g.15 t14.15os.15 t14.1654.15 t14.13p8.15 t14.1350.13ic.15 t14.1350.16f8.15 r1 t14.feo.15
   t14.fik.15 t14.fex.15 t14.h5n.15 t14.fis.15 t14.g31.15 t14.fer.15 t14.g2z.15 t14.fh9.15
   t14.gg1.15 t14.kco.15 t14.m7f.15 t14.ldg.15 t14.kdk.15 t14.ssx.15 t14.h7j.15 t14.k4l.15
   t14.kkq.15 t14.kcp.15 t14.ny6.15 t14.glp.15 t14.mm1.15 t14.rs1.15 t14.nz1.15 t14.gc4.15
   t14.fkz.15 t14.gos.15 t14.i1y.15 t14.nhf.15 t14.flt.15 t14.rt3.15 t14.ggk.15 t14.nzh.15
   t14.fm9.15 t14.pnu.15 t14.po3.15 tgun tinw tk1z toen k8 t34.38.2t t1e.1d t1e.1e t1e.1f t1e.1g
   t1e.1h t1e.1i t1e.1j t1e.1k t1e.1l t1f.1c t1f.1d t1f.1e t1f.1f t1f.1g t1f.1h t3cw s2.3cy s3.3d1
   t3d5 s2.3d7 s5.3da txz4 tyvs tzc4 t108s t10p4 t115g t1224 t12ys t13f4 t14bs t14s4 t158g t15os
   t1654 t14c8.y5c t13p8.13dk t138w k1 tfeo tfik tfex th5n tfis tg31 tfer tg2z tfh9 tgg1 tkco tm7f
   tldg tkdk tssx th7j tk4l tkkq tkcp tny6 tglp tmm1 trs1 tnz1 tgc4 to2g tn5j tho3 tsix tg16 tghc
   tlig tu11 tfm9 tg49 tl7n tfey tffx tfez tijq tgkz tgfv ti3b ti1y tnhf tflt trt3 tggk thlo t1f.1i
   t1f.1j t1f.1k t1f.1l t1g.1c t1g.1d t1g.1e t1g.1f t1g.1g t1g.1h t1g.1i t1g.1j t1g.1k t1g.1l
   t1h.1c t1d.kco t1e.kco t1f.kco t1g.kco t1h.kco t1i.kco t1j.kco t1k.kco t1l.kco t1d.1c.kco
   t1d.1d.kco t1d.1e.kco t2w.2v t2t.36.2v t2t.3a t30.38.2s t9lu t9lw t9ly t9m0 s2.9m2 t9m5 t9m7
   t9m9 t9mb t9md t9mf t9mh t9mj t9ml t9mn t9mp t9ms t9mu t9mw s6.9my t9n6 t9n9 t9nc t9nf s5.9ni
   t9no t9nq s6.9ns s4.9nz tfl0.gp8 t9lu.9n5.9oc.9mw t9lu.9nv.9n9.9lt t9lu.9o3.9ne.9lu t9lu.9oc.9nv
   t9lw.9mz.9o3.9m8 t9lw.9o3.9mp t9ly.9m1.9o3 t9m0.9mh.9m7.9oc.9mx t9m0.9oc.9m3.9oc t9m2.9o3.9mh
   t9m2.9oc.9nk t9m3.9lw.9nu t9m3.9nt.9mr.9mw t9m3.9nx.9nu.9oc t9m4.9nx.9o3 t9m4.9o3.9ni t9m6.9m4
   t9m6.9mz.9oc t9m5.9np.9nu.9oc t9m6.9nv.9mo.9oc t9m5.9nx t9m5.9nx.9m8.9nt.9nk
   t9m5.9nx.9nl.9oc.9mw.9nv t9m5.9nx.9nz.9mr.9mw t9m8.9nt.9nk t9m8.9nt.9nk.9mw.9o3
   t9m7.9nv.9mk.9lw.9nx t9m7.9nx.9oc.9n1 t9m9.9oc.9mh t9mb.9nv.9my t9mb.9oc.9nh t9md.9lw.9m7.9nv
   t9md.9o3.9mp.9oc.9nk t9mf.9nu.9o3.9m8 t9mj.9o3.9mp t9mj.9o3.9mw t9mo.9oc.9mh t9mv.9mf t9mx.9nv
   t9mw.9o3 t9my.9n2 t9n2.9mr.9mw t9n3.9lw.9ms t9n5.9oc.9mj.9o3.9mw t9n5.9oc.9ms t9n4.9oc.9nw.9nv
   t9n8.9lu.9mh.9mw.9nv t9n8.9m7.9nv t9n8.9mb t9n7.9nv t9n9.9lt.9nt.9mr.9mx t9n9.9lv.9oc.9mw
   t9na.9mr.9mf.9lz.9nv t9n9.9nt.9o3 t9nc.9m7.9mn.9oc.9nv t9ne.9ml t9ne.9mz.9n6 t9nc.9nv.9ms
   t9ne.9o3.9mh t9ne.9oc.9mg t9nd.9oc.9mn t9nh.9lw.9o3.9mw t9ng.9nv.9mw t9nf.9o3 t9nh.9o3.9mx
   t9nf.9oc.9nv t9nf.9oc.9o3 t9ni.9lw.9m7.9nx t9ni.9lw.9nv t9ni.9mr.9n3 t9ni.9nv.9m7
   t9ni.9o3.9mf.9nr.9o3 t9nj.9m7.9nx.9o3 t9nj.9nu t9nj.9nu.9n4.9oc.9nv t9nl.9m4 t9nl.9m4.9mw.9o3
   t9nl.9oc.9mw.9nv t9no.9oc.9mx t9no.9oc.9nv t9nq.9lu.9o3 t9nu.9mr.9mw.9nv t9nu.9nt t9nv.9n8.9oc
   t9nv.9oc.9na.9nv t9nw.9nk t9nw.9o3.9mw.9ma.9o3 t9nz.9mr.9mw t1c.m9l t1d.m9l t1e.m9l t1f.m9l
   t1g.m9l t1h.m9l t1i.m9l t1j.m9l t1k.m9l t1l.m9l t1d.1c.m9l t1d.1d.m9l t1d.1e.m9l t1d.1f.m9l
   t1d.1g.m9l t1d.1h.m9l t1d.1i.m9l t1d.1j.m9l t1d.1k.m9l t1d.1l.m9l t1e.1c.m9l t1e.1d.m9l
   t1e.1e.m9l t1e.1f.m9l t1e.1g.m9l t2w.34.2p t2s.2p t2p.39 t2q.2p.36 t33.3a t34.2r t2s.31
   t2s.31.1e t2s.31.1f t2x.39 tinn.jdc tk6l.gp8 thlz.l7n tk5q.lh7 tkkq.irz.fmi.ny6 t34.2p t32.2p
   tqk.2p t31.2p t2z.2p t2z.2q t31.2q t2v.2q t2r.2p.30 t2z.2r.2p.30 t34.2u t32.2u tqk.2u tqk.2v
   t31.2v t2z.2v t2w.3e t2z.2w.3e t31.2w.3e t2v.2w.3e t38.2w.3e tqk.30 t31.30 t2s.30 t2z.30 t2u.31
   t32.31 tqk.31 t31.31 t2r.31 t2z.31 t31.31.1e t2r.31.1e t31.1e t2z.31.1e t31.31.1f t2r.31.1f
   t31.1f t2z.31.1f t31.6qd.37 t31.6qd.37.1e t34.2p t2z.34.2p t31.34.2p t2v.34.2p t36.2p.2s
   t36.2p.2s.6qd.37 t36.2p.2s.6qd.37.1e t34.37 t32.37 tqk.37 t31.37 t34.3a t32.3a tqk.3a t31.3a
   t2z.3a t31.3a t34.3b t32.3b tqk.3b t31.3b t2z.3b t31.3b t2z.qx t31.qx r1 t2q.35 t2r.2r t2r.2s
   t2r.6qd.2z.2v r1 t2s.2q t2v.3d t2w.2p t2w.34 t2x.32 t2z.2z t2z.31 t2z.38 t30.31 t30.32 t30.33.2v
   t30.3c t31.2q t31.2x.30 t31.33.30 t34.2w r1 t34.34.31 t34.36 t37.36 t37.3a t3b.2q t3a.6qd.31
   t2p.6qd.31 t1d.k4l t1e.k4l t1f.k4l t1g.k4l t1h.k4l t1i.k4l t1j.k4l t1k.k4l t1l.k4l t1d.1c.k4l
   t1d.1d.k4l t1d.1e.k4l t1d.1f.k4l t1d.1g.k4l t1d.1h.k4l t1d.1i.k4l t1d.1j.k4l t1d.1k.k4l
   t1d.1l.k4l t1e.1c.k4l t1e.1d.k4l t1e.1e.k4l t1e.1f.k4l t1e.1g.k4l t1e.1h.k4l t1e.1i.k4l
   t1e.1j.k4l t1e.1k.k4l t1e.1l.k4l t1f.1c.k4l t1f.1d.k4l t2v.2p.30 km8d r3 k1j r9 k9o rk a1a ki as
   tui tuk k2i r8 ky ae k2 a1q tx2n k8 a4 t5tl aa k3 tx3g k1 th1 k2 a4 k2 ak th2 tgs tgx th8 th6 k1
   tim thz til txub ag tx3o thu t5u6 a4 th0 ag tbf rk t37 t2r t2u t35 tx6e k2 t87 t9f k1f r3 ka r6
   k1k r8 k1y r8 kc r6 k38 rb ku r3 k26 r1 kb r4 kx r1 k1j r9 ke r2 ka r2 k2v ro ks ra k6 r2 k6 r2
   k6 r9 k7 r1 k7 r1 k18 tx0n txtj th7 txua k9 ti5 k2 r4 s28.3vk k1a r2 ka r6 k8mc rc kn r4 k1d
   r6is trpk tkc4 ts7e trt4 tlw1 tfg2 tgkl tvj0 tvj0 thn5 tssx tgw7 thmw tjcm tne1 tp6t tqin tqt6
   tr20 tsjz tkxu tljv tmah tmvy tq4d tsq2 tuep tfia tghh tl50 tmjf tqi5 tv8e tifk tm3v tqfh tr50
   tjih tpnc tqvz tiq2 tkd3 tlm2 tmpo tslq tfpi tg53 tgda tjwk tl3n tmj4 tnhj tpa9 tqh2 tqjg ts1b
   ttv6 tupb tv7e tnt8 tnzz totc tq15 tt1g tvb3 trfa thjz tiro tokg tpdq tmle tnuy trsy tttj thjs
   ti8y tkyb tlp6 tlxr toq7 toxj ttor tgcy tpe3 tg64 tg5o to4c tou6 tq29 ttpx trk0 tjin tkxu trge
   tfg9 ti5j tiz6 tmtj tn74 tgev tnwb tfr3 tiw9 tff1 tlho tk1k topu tgjn thge tni9 tq4p tre2 tla2
   tsds tlfs tjjy tput tjog tn6t tfji tg2x tg5l tkn5 too7 tprj trf6 tssv tgdx tgn6 tho3 tir0 tk3p
   tm4e tnxm ttkd tui2 tvbr tvda tgbf tkau tl87 tsbm tino tj9s tjcw tjve tlyb tmdl tn0p to22 tovo
   tpdb ts9y tq9a tsgz tt3e tg7r tgbn tgql tma0 tr0i tre2 tiq1 tiyd tjnf tl9q toji tmt1 tfl0 th6h
   ti5j tiii tizg tmuq tmzt tp7e tpc6 tsvo ttti ttvs tu1k tfpn to1a tss4 ttrs tj4x tfie tfyy ti5q
   ti7z tk2h tkxu tmha tncy tq9o tsjg tvil tk94 ttny tgax tkfv tkj7 tlkx tluk tmx5 tn6h tnsb topc
   tu3i tg31 tje6 ttq0 tfu3 tie1 tlpm tsa2 tivf tj7o tkk7 tmtj ttqe tg89 tglr ti91 tk5v tkem tko8
   tlid tmx2 tnaa tp6h tr0v tr1d tsss ttsy tgfz tlve tgm5 tmhc tn14 tqgq ttr7 tuvr tvbz tkgn tlor
   tpns to97 tobk tolu tmo0 tm8p triw tfk0 tpx2 tg8q tg7b tip2 tjir tonq ti2t tljy tkac tsaj tqx8
   ttot tr63 tiqb tg1s tgxs k2 thga k1 tk8k k2 tg66 tmqy tngq tny4 tnz2 tnz9 to0f ttw6 ton2 tp8d k1
   tqhe k1 trg8 k2 tshk tsn1 k3 tu7j tu7w tu94 tv5g tsm6 ttrr tfqm tfzb tg25 tgcp tgdg tggh tgwt
   tgzq th2g thfk thig ti90 ti9a tj2s tj8o tj9q tjci tk0f tk4i tk9d tkn9 tlmf tlqy tlya tmem tmjv
   tmxu tntd tny6 tnyh tnyg tnyo tnyu tnz1 s2.o0d to5c to75 tog0 tovo tow9 toxt tp6a tpad tpnx tprt
   tprt tq53 tr2o tr6e trgh tri1 trtf truw tsdy tshk ttsz tu0v tu2j tj1x t36cu tpp4 r2 tffq tg51
   tg2w tfpc tg1x tg3k tgcn tge2 tgwt tgut tgwp tgyq thga thir thms thn8 thuq ti08 tiqa tiqh tiuh
   tiwd tj4o tj7y tj60 tj9q tj8g tjci tjec tjpg tjrw tjte tk0m tk8k tkd3 tkd7 tkeu tl89 tla2 tlkx
   tlwb tlvv tlya tm5a tmem tnmv tmk5 tmnj tmqy tn01 tn46 tn5n tnbx tnbz tngq tnh7 tnhw tnka tnk0
   tnv0 to8h tog0 tol7 torf tovo tp4u tpad tpxu tq27 tqrd tr41 tr5y tr6e tren trg8 trez trgh trge
   trfx tri1 trka truw tsag tsj6 tsrd tsxi ttq4 ttsz ttw6 ttzv tu0v tu17 tu2j tumq tvj0 t313e t3138
   t33dh tbrx tcns tcop t39e1 t3bgw t3i6r tvgj tvim r12 t2u.2u t2u.2x t2u.30 t2u.2u.2x t2u.2u.30
   t37.38 t37.38 rc t12s.12u t12s.12d t12s.12j t132.12u t12s.12l r5 t15l.14k k1 t16a.14n t15u t15c
   s2.15f s3.15n t160 t162 t17 t161.14x t161.14y t161.14s.14x t161.14s.14y t15c.14n t15c.14o
   t15c.14s t15d.14s t15e.14s t15f.14s t15g.14s t15h.14s t15i.14s r1 t15k.14s t15l.14s t15m.14s
   t15n.14s t15o.14s r1 t15q.14s r1 t15s.14s t15t.14s r1 t15v.14s t15w.14s r1 t15y.14s t15z.14s
   t160.14s t161.14s t162.14s t15h.14p t15d.14v t15n.14v t15w.14v t15c.15o t19t t19t t1a3 t1a3 t1a3
   t1a3 t1a6 t1a6 t1a6 t1a6 t1a8 t1a8 t1a8 t1a8 t1a2 t1a2 t1a2 t1a2 t1a7 t1a7 t1a7 t1a7 t1a1 t1a1
   t1a1 t1a1 t1b8 t1b8 t1b8 t1b8 t1ba t1ba t1ba t1ba t1ac t1ac t1ac t1ac t1ab t1ab t1ab t1ab t1ae
   t1ae t1ae s2.1ae t1af t1af t1af t1al t1al t1ak t1ak t1am t1am t1ag t1ag t1aw t1aw t1ap t1ap t1bd
   t1bd t1bd t1bd t1bj t1bj t1bj t1bj t1bn t1bn t1bn t1bn t1bl t1bl t1bl t1bl t1bu s2.1bu t1bv t1bv
   t1bv t1c0 s2.1c0 t1c1 t1c1 t1c1 t1by t1by t1by t1by t1ci s2.1ci t1cj kx t1bh t1bh t1bh t1bh t1c7
   t1c7 t1c6 t1c6 t1c8 t1c8 t1c7.19w t1cb t1cb t1c5 t1c5 t1c9 t1c9 t1cg t1cg t1cg t1cg t18p t18p
   t17q.17r t17q.17r t17q.1cl t17q.1cl t17q.18o t17q.18o t17q.1c7 t17q.1c7 t17q.1c6 t17q.1c6
   t17q.1c8 t17q.1c8 t17q.1cg t17q.1cg t17q.1cg t17q.18p t17q.18p t17q.18p t1cc t1cc t1cc t1cc
   t17q.17w t17q.17x t17q.18l t17q.18p t17q.18q t17s.17w t17s.17x t17s.17y t17s.18l t17s.18p
   t17s.18q t17u.17w t17u.17x t17u.17y t17u.18l t17u.18p t17u.18q t17v.17w t17v.18l t17v.18p
   t17v.18q t17w.17x t17w.18l t17x.17w t17x.18l t17y.17w t17y.17x t17y.18l t183.17w t183.17x
   t183.17y t183.18l t185.17x t185.18l t186.17w t186.17x t186.17y t186.18l t187.17x t187.18l
   t188.18l t189.17w t189.18l t18a.17w t18a.18l t18h.17w t18h.17x t18h.17y t18h.18l t18h.18p
   t18h.18q t18i.17x t18i.18l t18i.18p t18i.18q t18j.17r t18j.17w t18j.17x t18j.17y t18j.18k
   t18j.18l t18j.18p t18j.18q t18k.17w t18k.17x t18k.17y t18k.18l t18k.18p t18k.18q t18l.17w
   t18l.17x t18l.17y t18l.18l t18l.18p t18l.18q t18m.17w t18m.17x t18m.17y t18m.18l t18m.18p
   t18m.18q t18n.17w t18n.18l t18n.18p t18n.18q t18q.17w t18q.17x t18q.17y t18q.18l t18q.18p
   t18q.18q t180.19s t181.19s t18p.19s tw.18s.18x tw.18t.18x tw.18u.18x tw.18v.18x tw.18w.18x
   tw.18x.19s t17q.181 t17q.182 t17q.18l t17q.18m t17q.18p t17q.18q t17s.181 t17s.182 t17s.18l
   t17s.18m t17s.18p t17s.18q t17u.181 t17u.182 t17u.18l t17u.18m t17u.18p t17u.18q t17v.181
   t17v.182 t17v.18l t17v.18m t17v.18p t17v.18q t18h.18p t18h.18q t18i.18p t18i.18q t18j.17r
   t18j.18k t18j.18l t18j.18p t18j.18q t18k.18l t18k.18p t18k.18q t18l.17r t18l.18l t18m.181
   t18m.182 t18m.18l t18m.18m t18m.18p t18m.18q t18p.19s t18q.181 t18q.182 t18q.18l t18q.18m
   t18q.18p t18q.18q t17q.17w t17q.17x t17q.17y t17q.18l t17q.18n t17s.17w t17s.17x t17s.17y
   t17s.18l t17s.18n t17u.17w t17u.17x t17u.17y t17u.18l t17u.18n t17v.18l t17w.17x t17w.18l
   t17x.17w t17x.18l t17y.17w t17y.18l t183.17w t183.17x t183.17y t183.18l t185.17x t185.17y
   t185.18l t186.17w t186.17x t186.17y t186.18l t187.17x t188.18l t189.17w t189.18l t18a.17w
   t18a.18l t18h.17w t18h.17x t18h.17y t18h.18l t18i.17x t18i.18l t18j.17w t18j.17x t18j.17y
   t18j.18k t18j.18l t18k.17w t18k.17x t18k.17y t18k.18l t18k.18n t18l.17w t18l.17x t18l.17y
   t18l.18l t18m.17w t18m.17x t18m.17y t18m.18l t18m.18n t18n.17w t18n.18l t18n.19s t18q.17w
   t18q.17x t18q.17y t18q.18l t18q.18n t17q.18l t17q.18n t17s.18l t17s.18n t17u.18l t17u.18n
   t17v.18l t17v.18n t183.18l t183.18n t184.18l t184.18n t18j.18k t18j.18l t18k.18l t18m.18l
   t18m.18n t18q.18l t18q.18n t18g.18u.18x t18g.18v.18x t18g.18w.18x t187.18p t187.18q t189.18p
   t189.18q t18a.18p t18a.18q t183.18p t183.18q t184.18p t184.18q t17x.18p t17x.18q t17w.18p
   t17w.18q t17y.18p t17y.18q t185.18p t185.18q t186.18p t186.18q t184.17w t184.17x t184.17y
   t184.18l t184.181 t183.181 t185.181 t186.181 t187.18p t187.18q t189.18p t189.18q t18a.18p
   t18a.18q t183.18p t183.18q t184.18p t184.18q t17x.18p t17x.18q t17w.18p t17w.18q t17y.18p
   t17y.18q t185.18p t185.18q t186.18p t186.18q t184.17w t184.17x t184.17y t184.18l t184.181
   t183.181 t185.181 t186.181 t184.17w t184.17x t184.17y t184.18l t183.18n t184.18n t187.18l
   t183.17w t183.17x t183.17y t184.17w t184.17x t184.17y t187.18l t188.18l t17r.18r t17r.18r ki
   t17u.17w.18l t17u.17x.17w t17u.17x.17w t17u.17x.18l t17u.17y.18l t17u.18l.17w t17u.18l.17x
   t17u.18l.17y t17w.18l.17x t17w.18l.17x t17x.18l.18q t17x.18l.18p t183.17x.17w t183.17w.17x
   t183.17w.18p t183.18l.17x t183.18l.17x t183.18l.17w t183.18l.18l t183.18l.18l t185.17x.17x
   t185.17x.17x t185.18l.18l t184.17x.18l t184.17x.18l t184.17w.18q t184.18l.17y t184.18l.17y
   t184.18l.18l t184.18l.18l t186.17x.18p t186.17y.18l t186.17y.18l t187.18l.17x t187.18l.17x
   t187.18l.18l t187.18l.18q t189.17w.18l t189.18l.18l t189.18l.18l t189.18l.18p t18a.18l.18l
   t18a.18l.18q t18a.18l.18p t18h.17y.18l t18h.17y.18l t18i.18l.17x t18i.18l.18l t18k.17x.18l
   t18k.17x.18q t18k.17x.18p t18k.17w.17w t18k.17w.17w t18k.17y.18l t18k.17y.18l t18k.18l.17x
   t18k.18l.17x t18l.17x.17w t18l.17x.18l t18l.17x.18q t18l.17w.17x t18l.17w.18l t18l.17y.17w
   t18l.17y.18l k2 t18l.17w.17y t18n.18l.17w t18n.18l.18l t18m.17x.18l t18m.17x.18p t18m.17w.18l
   t18m.17w.18l t18m.17w.18p t18m.18l.18q t18m.18l.18p t18q.18l.18l t18q.18l.18l t17s.17y.18q
   t17u.17w.18q t17u.17w.18p t17u.17y.18q t17u.17y.18p t17u.18l.18q t17u.18l.18p t17w.18l.18q
   t17w.17x.18p t17w.18l.18p t183.17y.18p t185.17x.18q t184.17x.18q t186.17x.18q t18k.17w.18q
   t18k.18l.18q t18q.17x.18q t18q.17w.18q t18q.18l.18q t18l.18l.18q t18i.18l.18q t18m.17x.18q
   t18i.18l.17x t18k.17x.18l t189.18l.18q t18j.18l.18q t18m.17w.17x t18l.17y.18q t18k.17w.18l
   t18j.18l.18l t18k.17w.18l t18m.17w.17x t17w.17x.18q t17x.17w.18q t18l.17w.18q t18h.18l.18q
   t17s.17x.18q t18j.18l.18l t189.17w.18l t185.18l.18l t183.17y.18q t18m.17w.18q k8 rw t185.18k.1ci
   t18i.18k.1ci t17r.18k.18k.18n t17r.18j.17s.181 t18l.17x.18l.17z t185.18k.189.18l
   t181.183.18o.18k t189.18k.18q.18n t18o.183.18k.18l t185.18k.18p
   t185.18k.18p.w.17r.18k.18k.18n.w.189.18k.18q.18n.w.18o.183.18k.18l
   t17w.18k.w.17w.18k.17r.18k.18n t181.1cc.17r.18k k3 dg t18 t9hd r1 s2.1m tx t1r s2.9hy r7 kg r1
   t6c4 t6c3 t2n t2n s2.14 t3f t3h s2.9hw s2.9hs s2.9hm s2.9hk s4.9ho k2 t2j t2l tw.lh tw.lh tw.lh
   tw.lh t2n t2n t2n t18 t9hd r2 t1n t1m t1r tx t6c4 s2.14 t3f t3h s2.9hw tz t12 s2.16 t19 t1o t1q
   t1p r1 t2k s2.10 t1s r4 tw.18r t18g.18r tw.18s k1 tw.18t r1 tw.18u t18g.18u tw.18v t18g.18v
   tw.18w t18g.18w tw.18x t18g.18x tw.18y t18g.18y s2.17l s2.17m s2.17n s2.17o s2.17p t17q t17q
   s2.17q s2.17r t17s t17s s2.17s s2.17t t17u t17u s2.17u t17v t17v s2.17v t17w t17w s2.17w t17x
   t17x s2.17x t17y t17y s2.17y s2.17z s2.180 s2.181 s2.182 t183 t183 s2.183 t184 t184 s2.184 t185
   t185 s2.185 t186 t186 s2.186 t187 t187 s2.187 t188 t188 s2.188 t189 t189 s2.189 t18a t18a t18a
   t18h t18h t18h s2.18h t18i t18i s2.18i t18j t18j s2.18j t18k t18k s2.18k t18l t18l s2.18l t18m
   t18m s2.18m t18n t18n s2.18n s2.18o s2.18p t18q t18q t18q t18k.17m t18k.17m t18k.17n t18k.17n
   t18k.17p t18k.17p t18k.17r t18k.17r r2 d1 r1 sw.x sq.2p s10.2j s2.879 t1a s2.9ho t9hd t9ob t9o2
   t9lt t9lv t9lx t9lz t9m1 t9nn t9np t9nr t9mr t9oc t9lu t9lw t9ly t9m0 s2.9m2 t9m5 t9m7 t9m9 t9mb
   t9md t9mf t9mh t9mj t9ml t9mn t9mp t9ms t9mu t9mw s6.9my t9n6 t9n9 t9nc t9nf s5.9ni t9no t9nq
   s6.9ns t9nz t9o3 s2.9ll d1 s2.3cw t3hm t3cy s2.3ho s3.3cz s6.3hs t3dm s3.3d2 t3dt sa.3d5 r3
   s6.3fl r2 s6.3fr r2 s6.3fx r2 s3.3g3 r3 s2.4i t4s tw.lg t4m t4l t6g9 r1 t7b6 s4.6mo t7fk t7gr rh
   kc r1 kq r1 kj r1 k2 r1 kf r2 ke ry k3f r5 k3 r4 k19 r3 k2g r1 kd r3 k1 r1b k1a r3m kt r3 k1d rf
   ks r4 k10 r9 ku r5 k17 r5 ku r1 k11 r4 ke r16 s14.1fe0 k3a r2 ka r6 s10.1fiw r4 k10 r4 k14 r8
   k1g rb k1 sb.1fo7 r1 sf.1foj r1 s7.1foz r1 s2.1fp7 r1 kb r1 kf r1 k7 r1 k2 r3 k1g rc k8n r9 km
   ra k8 ro k1 s2.k0 t6e tih tgj r1 tir txuu tit tis s2.gm t5u9 tgo tgu tix th0 tgy tgw tij t87 tik
   th3 thw s2.iy th8 t2mmc tx3i tha t2mmd ti6 t2mme t6w s2.hi t35 thm t2mmg s2.hp ths tiw tiu txuv
   tiv ti0 t8s1 r1 ti7 s2.ip tig s3.cg t2mmi t2mn2 r1x k6 r2 k1 r1 k18 r1 k2 r3 k1 r2 kn r1 k20 r8
   k9 r1c kj r1 k2 r5 kx r3 kr r5 kr r12 k1k r4 kk r2 k1e r1 k2 r5 k8 r1 k3 r1 kt r2 k3 r4 ka r7 k9
   r7 k1s rw k13 r4 kc r9 k1i r3 kt r2 kr r5 kq r7 k4 rc k7 r28 k21 r1j s1f.1h34 rd k1f r7 k1a r8
   ka r6 kg sm.1h80 r3 kt r8 k2 r5s kv r1 k16 r1 k3 r2 k2 rg k6 r8 k9 rx k1a r8 k16 rm kq r12 ks rk
   kn r9 k26 r4 k10 r9 k1q r1 k5 rd kp r7 ka r6 k1h r1 ki r8 k13 r9 k2o r1 kk rb ki r1 k1b r1q k7
   r1 k1 r1 k4 r1 kf r1 kb r6 k1n r5 ka r6 k4 r1 k8 r2 k2 r2 km r1 k7 r1 k2 r1 k5 r1 ka r2 k2 r2 k3
   r2 k1 r6 k1 r5 k7 r2 k7 r3 k5 rb ka r1 k1 r2 k1 r1 k12 r1 ka r1 k1 r2 k1 r1 k4 r1 ka r1 k2 r8 k2
   rt k2k r1 k5 ru k20 r8 ka r4m k1i r2 k12 ry k1x rb ka r6 kd rj k1m r6 ka r6 kk rs kr r2 kf r4 kn
   r55 k1o r2s sw.1jgg k1f rc k8 r2 k1 r2 k8 r1 k2 r1 ku r1 k2 r2 kc r9 ka r1y k8 r2 k1a r2 kb rr
   k20 r8 k2b rd k21 r7 ka r2e k8 r2g ky re ka r6 k9 r1 k19 r1 ke ra kt r3 kw r2 km r1 ke r21 k7 r1
   k2 r1 k18 r3 k1 r1 k2 r1 k9 r8 ka r6 k6 r1 k2 r1 k11 r1 k2 r1 k6 r7 ka r6 k18 r4 ka r6u kp r7 kh
   r1 k15 r3 kt r2d k1 rf k1e rd kpn r2u k33 r1 k5 rb k5g r218 k2r rd kts rg km ra k32z r5 kg7 r5a1
   k1m r1c6 kft r7 kv r1 ka r4 k29 r1 ka r6 ku r2 k6 ra k1y ra ka r1 k7 r1 kl r5 kj rc0 k1m r5i
   sw.20dc k1n r5 sp.20fv r2 kp r18 k23 r4 k1l r7 kh r1s k5 rb k7 r9 k5p2 r15 kw r2p k37 r6pp k4 r1
   k7 r1 k2 r1 k83 rf k1 rt k3 r2 k1 re k4 r8 kb0 r1s4 k2z r5 kd r3 k9 r7 ka r2 k4 d4 r318 k5y
   sq.2p sa.1c k3 r3 kc4 r6 kn rf kh rf k1a r2 kn r9 k38 r1o k6u ra k13 r2 k1h t2jx3.2jxh
   t2jx4.2jxh t2jx4.2jxh.2jxq t2jx4.2jxh.2jxr t2jx4.2jxh.2jxs t2jx4.2jxh.2jxt t2jx4.2jxh.2jxu ke d8
   k1s t2jzt.2jxh t2jzu.2jxh t2jzt.2jxh.2jxq t2jzu.2jxh.2jxq t2jzt.2jxh.2jxr t2jzu.2jxh.2jxr k16 rl
   k1y r3e kk rc kk rc k2f r9 kp r3r sq.2p sq.2p sq.2p s7.2p r1 si.2x sq.2p sq.2p t2p r1 s2.2r r2
   t2v r2 s2.2y r2 s4.32 r1 s8.37 s4.2p r1 t2u r1 s7.2w r1 sb.34 sq.2p sq.2p s2.2p r1 s4.2s r2
   s8.2y r1 s7.37 r1 sq.2p s2.2p r1 s4.2s r1 s5.2x r1 t33 r3 s7.37 r1 sq.2p sq.2p sq.2p sq.2p sq.2p
   sq.2p sq.2p sq.2p sq.2p sq.2p sq.2p sq.2p sq.2p t8h tfr r2 sh.q9 tqg s7.qr t6pz sh.q9 tqr s7.qr
   t6pu tqd tqg tqi tqu tqp tqo sh.q9 tqg s7.qr t6pz sh.q9 tqr s7.qr t6pu tqd tqg tqi tqu tqp tqo
   sh.q9 tqg s7.qr t6pz sh.q9 tqr s7.qr t6pu tqd tqg tqi tqu tqp tqo sh.q9 tqg s7.qr t6pz sh.q9 tqr
   s7.qr t6pu tqd tqg tqi tqu tqp tqo sh.q9 tqg s7.qr t6pz sh.q9 tqr s7.qr t6pu tqd tqg tqi tqu tqp
   tqo trh trh r2 sa.1c sa.1c sa.1c sa.1c sa.1c ki4 rf k5 r1 kf ruo kv r6 k6 r5x k7 r1 kh r2 k7 r1
   k2 r1 k5 r5 s9.ts s3.u2 sb.u6 tuj s2.ul tww9 tyh tuu tuw tyx txb ty7 s9.ts s2.u2 s2.u6 tu9 s6.ub
   s2.ui twh tuu tut tv3 tx7 twup txd rx k1 r34 k19 r3 ke r2 ka r4 k2 r8w kv rh k1m r5 k1 rcw k16
   r5y k17 r4 k1 r5c kv r1 km r8 k2 r68 k7 r1 k4 r1 k2 r1 kf r1 k5h r2 kg r15 sy.2oma k16 r4 ka r4
   k2 rlt k1w r24 k1p r5e s2.17r t17w t17z r1 t18o t182 t17x t187 t18q s4.18j t183 t189 t18h t185
   t18i t181 t184 s2.17u t17y t180 t186 t188 t18a t19q t1bu t1b5 t19r r1 t17s t17w r1 t18n r2 t17x
   r1 t18q s4.18j t183 t189 t18h t185 t18i r1 t184 s2.17u t17y r1 t186 r1 t18a r6 t17w r4 t17x r1
   t18q r1 t18k r1 t18m t183 t189 r1 t185 t18i r1 t184 r2 t17y r1 t186 r1 t18a r1 t1bu r1 t19r r1
   t17s t17w r1 t18n r2 t17x t187 t18q t18j r1 s2.18l t183 t189 t18h t185 t18i r1 t184 s2.17u t17y
   r1 t186 t188 t18a t19q r1 t1b5 r1 s2.17r t17w t17z s2.18n t182 t17x t187 t18q r1 s3.18k t183
   t189 t18h t185 t18i t181 t184 s2.17u t17y t180 t186 t188 t18a r5 t17s t17w t17z r1 t18o t182
   t17x t187 t18q r1 s3.18k t183 t189 t18h t185 t18i t181 t184 s2.17u t17y t180 t186 t188 t18a r1g
   k2 r7i k18 r4 k2s rc kf r2 kf r1 kf r1 k11 rb t1c.18 t1d.18 t1e.18 t1f.18 t1g.18 t1h.18 t1i.18
   t1j.18 t1k.18 t1l.18 k5 t14.2p.15 t14.2q.15 t14.2r.15 t14.2s.15 t14.2t.15 t14.2u.15 t14.2v.15
   t14.2w.15 t14.2x.15 t14.2y.15 t14.2z.15 t14.30.15 t14.31.15 t14.32.15 t14.33.15 t14.34.15
   t14.35.15 t14.36.15 t14.37.15 t14.38.15 t14.39.15 t14.3a.15 t14.3b.15 t14.3c.15 t14.3d.15
   t14.3e.15 t9hw.37.9hx t2r t36 t2r.2s t3b.3e k1 sq.2p t2w.3a t31.3a t37.2s t37.37 t34.34.3a
   t3b.2r kq t31.2r t31.2s t31.36 kz t2s.2y kt r1k kq t9kr.9jf t9mb.9mb t9md rd tjez ti1j tgjw t9mv
   tfik thlm tr8j thm1 tfj8 tk68 tmch tk2h tg99 tivg tg3x tk34 tg7x toqq tn4v trs9 thkg tgmx tlxw
   tjh1 tjmd tfeo tfex tsi2 tijq tffx tgkz tjk7 trxs tjf7 to01 to6y tglk tlts tkcp tkco tn5f tgaa
   tgxi tsp9 r4 t9hw.kdo.9hx t9hw.fex.9hx t9hw.fik.9hx t9hw.i2x.9hx t9hw.m9l.9hx t9hw.jf7.9hx
   t9hw.nh3.9hx t9hw.gd9.9hx t9hw.k0n.9hx r7 tivr tgkv re k6 r4a krd r3 kh r3 kd r3 k62 r6 kc r4 k1
   rf kc r4 k1k r8 ka r6 k14 r8 ku r2 kc r4 k2 re k9 r13 k9k r8 ke r2 kd r3 kb r3 k1l r1 k1 r4 kg
   r2 kc r4 ka r7 k43 r1 k2k sa.1c k1 rsl kwyo rw k3dq r2 k4ge r2 k5rl rf kha r1wi tfgd tfg8 tfgh
   t2tcy tfog tfqm tfqz tfsy tfwa tfx5 tfzb tfyn tae6 t2ud6 tg25 tg2c tg2s tg3b t2u58 taex tg2v
   tg3x t2u6j tg47 tg4k tfkc tg4s tg51 t3ly7 tg6t tg77 tafz tg8r tg92 tgaa tgaf tahh tgcn tgcp tgdg
   tge2 s2.ged tgev tgg9 tggh tggq tghf tghp tghr tghr tghr t2v58 tm7k tgju tgkf t2vdv tgkr tgkx
   tgli tgpq tgmw tgnc tgo8 tgpu tgs6 tgsw tgur tgv7 tgw4 tgw4 tgwp tgx7 tgxf tgxu th7a tgzq th7b
   th1t th2s tg7b thke thce thdg the5 thaj thf6 thf5 thik t2x9g thki thkn thl2 thlm thlu thnm t2xm0
   t2xnu thrg thsr tht3 thqw thuu taum tav0 thzc ti0u ti0u t2y88 ti4j ti54 ti5j ti5v t2yhk ti67
   ti6e titv ti76 tayp ti8w ti9a tibk tia5 t2z1g tif7 t2z1i tige tigb tigs s2.ijl tb3j tikd tilk
   tim5 tind tb4y t2zr7 tb5o tipc tipf tipi tiq2 t3pg2 tiri t3035 t3035 tpoh tisi tisi tb7r t335k
   t3cgq tiua tiuj tb8j tivu tix9 tixj tiyh tj29 tbay tba4 tj2s t30t0 tj47 tj7s tj7w tj7y tj7w tj96
   tj9q tjaq tjac tjan tjby tjci tjcm tjdc tjdn tjfh tjht tjis tjm8 t31n0 tjlp tjjw tjmw tjnn tjqc
   t31td tjs2 tjph tjop tbhq tju1 tjum tjvh tjuf tbjg tk0f tk18 t32mi tk4j tkc8 tk7d tbo9 tk9d tbns
   tbms tg42 tg45 tkcg tk9o tpf1 tdeh tkd3 tkd7 tkdd tkf2 tker t33cz tbpl tkje tkg5 tklu tkn9 t33hp
   tkni tkkf tkr8 tbrx tksi tkv7 tkx6 tl2g t33xf tl3v tbvc tl5t t34br tl78 tbwu tl82 tl9b s2.la2
   t34p9 t2yvf t34sa tle6 t354s tlhb tlhp tlev tljq tlku tlmf tlkx tlm1 tlmg tlmt t357i tlkk tlrj
   tlta tc37 tlvv tlvr t35jl tlq1 tm0e t35ni t35ou tm2u tm61 tm5a tm57 tc5y tm6i tm7x tm7r tm99
   t2u5h tmdh t368z tmfw t36i3 tmjs tmk5 tmkw t36yw tmm8 tmmt t3779 t37dg tmt6 tmtn tcdo tmud tce0
   tce0 tmyv tmzg tn01 tn0l tn2i tcgr tn50 t386u tn5q t389e tn74 t2zrz tnbk t38v5 t38vs t38zo tcn0
   tcnc tnhw t394j t394i t395l t396b s2.nj2 tnj3 tnka tcop tnm3 tcp2 tcra t39r1 tnri tnt8 tnv0 tctf
   t3a5i tnyu t3a8q t3a9x to0f to2z tcvj to5c to5m to5r t3at8 t3b1j t3b1j toa6 td1e t3b8r tog6 tog9
   td2f t3beo tonm td5s too8 too3 toow t3c06 torn td8h touf tow2 toxx td9w t3ciw t3cjr tdax t3cnt
   tp6i t3cqm tp79 tpa2 tpad t3d22 t3d43 tpcw t3d7s tpdc t33a7 tded tpf6 tphf tdfv tpj2 thx1 t3dlz
   t3dmd t33bn t33bw tpoh tpok tsda tdij tpsh tpsb tpst tgc3 tptd tptf tptp tpuu t3ebg tput tpwd
   tpyb tq0d tpwj tq0t tq1z tq53 tpxv tq16 tq18 tq1o t3eie t3eqz t3emt tdnv tq9d tq9f tqae t3g0a
   tqck t3f3g tdp9 tdpd t3f75 t3ff6 tdpn tqj4 tqjg tqjr tqjt tqll tqko tqoe tqn6 tqrd tqp4 tqqz
   tqrq tdsn tqu9 tqv5 tdtl tqxs tqxv t3giv tr13 tr1a tdv9 tr22 taez t3gz2 t3h46 tdz2 tdzb trds
   trfx trka trpx t3hrc trsb trsx trvf trxz t3i9b t2upw ts0b trzw ts1c t2uvy ts7o tsag t3jki t3jl9
   tsk4 tsmp tsnl t3ju6 tsnv tsvs s2.t07 tsxo tt89 tt91 t3ksa ttjf tej9 ttkn t3l2v teli tts3 tiia
   ttur t3ltx t3lzu tepa tepi tu00 t3mdm ter6 t3mhi tu17 tu17 tu21 t3mpi tu76 teur tu95 tucn tude
   tuf2 tez2 t3nsg tumq tuv4 tv0d tf66 tf71 tv3b t3owe tf7c t3oxx t3p5a t3p8x tvcr tf9y tveh tvem
   tvet tvf3 tvfa tvgb t3pxc r15u k3t7 r5 k6ju rf62u d6o"

end ComplexityLint.Uri.Domain
