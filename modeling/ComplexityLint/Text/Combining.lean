import ComplexityLint.Text.Runs

/-!
Combining characters: the general category M, and the canonical combining class, by which marks
behind one character are put in order.
-/

namespace ComplexityLint.Text

/-- The general category M: class one. -/
def markRuns : Runs := runsOf
  ".lc 1.34 .7n 1.7 .7b 1.19 .1 1.1 .1 1.2 .1 1.2 .1 1.1 .20 1.b .1c 1.l .g 1.1 .2t 1.7 .2 1.6 .2
   1.2 .1 1.4 .z 1.1 .u 1.r .2j 1.b .1m 1.9 .9 1.1 .o 1.4 .1 1.9 .1 1.3 .1 1.5 .17 1.3 .1n 1.9 .16
   1.o .1 1.x .1i 1.3 .1 1.i .1 1.7 .a 1.2 .t 1.3 .1k 1.1 .1 1.7 .2 1.2 .2 1.3 .9 1.1 .a 1.2 .q 1.1
   .2 1.3 .1k 1.1 .1 1.5 .4 1.2 .2 1.3 .3 1.1 .u 1.2 .3 1.1 .b 1.3 .1k 1.1 .1 1.8 .1 1.3 .1 1.3 .k
   1.2 .m 1.6 .1 1.3 .1k 1.1 .1 1.7 .2 1.2 .2 1.3 .7 1.3 .a 1.2 .u 1.1 .1n 1.5 .3 1.3 .1 1.4 .9 1.1
   .14 1.5 .1j 1.1 .1 1.7 .1 1.3 .1 1.4 .7 1.2 .b 1.2 .t 1.3 .1k 1.1 .1 1.7 .1 1.3 .1 1.4 .7 1.2 .b
   1.2 .f 1.1 .c 1.4 .1j 1.2 .1 1.7 .1 1.3 .1 1.4 .9 1.1 .a 1.2 .t 1.3 .1y 1.1 .4 1.6 .1 1.1 .1 1.8
   .i 1.2 .1p 1.1 .2 1.7 .c 1.8 .2q 1.1 .2 1.9 .b 1.7 .21 1.2 .r 1.1 .1 1.1 .1 1.1 .4 1.2 .1d 1.k
   .1 1.2 .5 1.b .1 1.10 .9 1.1 .2s 1.k .n 1.4 .4 1.3 .1 1.3 .2 1.7 .3 1.4 .d 1.c .1 1.1 .a 1.4 .jj
   1.3 .qa 1.4 .s 1.3 .t 1.2 .u 1.2 .1s 1.w .9 1.1 .19 1.3 .1 1.1 .39 1.2 .y 1.1 .3a 1.c .4 1.c .63
   1.5 .1l 1.a .1 1.t .2 1.1 .1c 1.1a .2 1.c .k 1.5 .1b 1.h .12 1.9 .c 1.3 .u 1.d .1k 1.e .1c 1.k
   .48 1.3 .1 1.l .4 1.1 .6 1.1 .2 1.3 .5i 1.1s .k0 1.x .2da 1.3 .3x 1.1 .2o 1.w .fe 1.6 .2x 1.2
   .n9w 1.4 .1 1.a .w 1.2 .28 1.2 .7k 1.1 .3 1.1 .4 1.1 .n 1.5 .4 1.1 .2b 1.2 .1e 1.i .q 1.i .d 1.1
   .12 1.8 .p 1.d .18 1.4 .1b 1.e .10 1.1 .1v 1.e .c 1.1 .8 1.2 .19 1.3 .1e 1.1 .1 1.3 .2 1.2 .5
   1.2 .1 1.1 .15 1.5 .5 1.2 .6k 1.8 .1 1.2 .fn4 1.1 .kh 1.g .g 1.g .r1 1.1 .6a 1.1 .45 1.5 .1ae
   1.3 .1 1.2 .5 1.4 .14 1.3 .4 1.1 .4l 1.2 .fx 1.4 .1t 1.5 .8t 1.2 .25 1.6 .1y 1.b .1d 1.4 .3e 1.3
   .1h 1.f .15 1.1 .2 1.2 .a 1.4 .19 1.b .7 1.1 .1p 1.3 .10 1.e .g 1.2 .18 1.1 .c 1.3 .1c 1.e .8
   1.4 .1 1.2 .2k 1.c .6 1.1 .2 1.1 .4d 1.c .l 1.4 .1j 1.2 .1 1.7 .2 1.2 .2 1.3 .9 1.1 .a 1.2 .2
   1.7 .3 1.5 .1v 1.9 .1 1.1 .2 1.1 .1 1.4 .1 1.5 .1 1.1 .e 1.2 .2a 1.i .n 1.1 .29 1.k .6j 1.7 .2
   1.9 .r 1.2 .2a 1.h .2y 1.d .2t 1.f .74 1.f .6t 1.6 .1 1.2 .2 1.4 .1 1.1 .1 1.2 .3x 1.7 .2 1.7 .3
   1.1 .s 1.a .14 1.7 .1 1.4 .8 1.1 .9 1.b .1a 1.g .5i 1.8 .5j 1.8 .1 1.8 .2a 1.m .1 1.e .3e 1.6 .3
   1.1 .1 1.2 .1 1.7 .1 1.1 .1u 1.5 .1 1.2 .1 1.5 .9n 1.4 .9 1.2 .1 1.1 .1c 1.7 .3 1.5 .n 1.1 .44l
   1.1 .6 1.f .8ug 1.i .1xc 1.5 .1n 1.7 .t4 1.1 .1 1.1j .7 1.4 .29 1.1 .b 1.2 .f57 1.2 .3mp 1.1a .2
   1.n .f2 1.5 .3 1.6 .8 1.8 .2 1.7 .u 1.4 .44 1.3 .1iz 1.1j .4 1.1e .8 1.1 .e 1.1 .m 1.5 .1 1.f
   .11s 1.7 .1 1.h .2 1.7 .1 1.2 .1 1.5 .2s 1.1 .4g 1.7 .af 1.1 .1p 1.4 .e4 1.4 .72 1.2 .6r 1.1 .2
   1.1 .7 1.2 .5 1.1 .d6 1.7 .31 1.7 .gzhx 1.6o"

/-- The canonical combining classes. -/
def combiningRuns : Runs := runsOf
  ".lc 6e.l 6g.1 64.4 6g.1 60.1 64.5 5m.2 64.4 5m.2 64.b 1.5 64.4 6e.8 6o.1 6e.1 64.3 6e.3 64.2 .1
   6e.3 64.4 6e.1 6g.1 64.2 6e.1 6h.1 6i.2 6h.1 6i.2 6h.1 6e.d .7n 6e.5 .7d 64.1 6e.4 64.1 6e.3
   66.1 64.1 6e.6 64.6 6e.2 64.1 6e.2 66.1 6c.1 6e.1 a.1 b.1 c.1 d.1 e.1 f.1 g.1 h.1 i.1 j.2 k.1
   l.1 m.1 .1 n.1 .1 o.1 p.1 .1 6e.1 64.1 .1 i.1 .20 6e.8 u.1 v.1 w.1 .1c r.1 s.1 t.1 u.1 v.1 w.1
   x.1 y.1 6e.2 64.2 6e.5 64.1 6e.2 64.1 .g z.1 .2t 6e.7 .2 6e.4 64.1 6e.1 .2 6e.2 .1 64.1 6e.2
   64.1 .z 10.1 .u 6e.1 64.1 6e.2 64.1 6e.2 64.3 6e.1 64.2 6e.1 64.1 6e.3 64.1 6e.1 64.1 6e.1 64.1
   6e.1 64.1 6e.2 .4g 6e.7 64.1 6e.1 .9 64.1 .o 6e.4 .1 6e.9 .1 6e.3 .1 6e.5 .17 64.3 .1n 6e.2 64.3
   6e.4 .16 6e.5 64.5 6e.e .1 64.1 6e.2 64.1 6e.2 64.1 6e.3 64.3 r.1 s.1 t.1 6e.3 64.1 6e.2 64.2
   6e.5 .1o 7.1 .g 9.1 .3 6e.1 64.1 6e.2 .2v 7.1 .g 9.1 .1c 6e.1 .1p 7.1 .g 9.1 .32 7.1 .g 9.1 .32
   7.1 .g 9.1 .3j 9.1 .32 7.1 .g 9.1 .7 2c.1 2j.1 .2t 7.1 .g 9.1 .31 9.2 .g 9.1 .3g 9.1 .31 2v.2
   9.1 .d 2z.4 .30 3a.2 9.1 .d 3e.4 .24 64.2 .r 64.1 .1 64.1 .1 60.1 .1j 3l.1 3m.1 .1 3o.1 .5 3m.4
   .2 3m.1 .1 6e.2 9.1 .1 6e.2 .1q 64.1 .34 7.1 .1 9.2 .2a 64.1 .jz 6e.3 .qc 9.2 .u 9.1 .4d 9.1 .a
   6e.1 .5n 6c.1 .3z 66.1 6e.1 64.1 .63 6e.1 64.1 .1z 9.1 .k 6e.8 .2 64.1 .1c 6e.5 64.6 6e.2 64.1
   .1 64.2 6e.2 64.2 6e.5 64.1 6e.i 64.1 .2 6e.6 64.1 6e.4 6i.1 .20 7.1 .f 9.1 .12 6e.1 64.1 6e.7
   .1i 9.2 .1m 7.1 .b 9.2 .1v 7.1 .48 6e.3 .1 1.1 64.5 6e.2 64.4 6e.1 .1 1.7 .4 64.1 .6 6e.1 .3
   6e.2 .5i 6e.2 64.1 6e.7 64.1 6e.2 6i.1 5y.1 64.1 5m.1 6e.11 6g.1 6c.2 64.1 62.1 6e.1 6h.1 64.1
   6e.1 64.1 .k0 6e.2 1.2 6e.4 1.3 6e.2 .4 6e.1 .3 1.2 6e.1 64.1 6e.1 1.2 64.4 6e.1 .2da 6e.3 .3x
   9.1 .2o 6e.w .fe 62.1 6c.1 6g.1 66.1 68.2 .2x 8.2 .n9w 6e.1 .4 6e.a .w 6e.2 .28 6e.2 .7o 9.1 .11
   9.1 .47 9.1 .r 6e.i .1l 64.3 .11 9.1 .2n 7.1 .c 9.1 .6n 6e.1 .1 6e.2 64.1 .2 6e.2 .5 6e.2 .1
   6e.1 .1g 9.1 .6u 9.1 .fn4 q.1 .ld 6e.7 64.7 6e.2 .r1 64.1 .6a 64.1 .45 6e.5 .1aq 64.1 .1 6e.1
   .14 6e.1 1.1 64.1 .4 9.1 .4l 6e.1 64.1 .fx 6e.4 .1t 6e.5 .8t 6e.2 .25 64.2 .1 64.3 .1y 64.2 6e.3
   64.1 6e.1 64.4 .1d 6e.1 64.1 6e.1 64.1 .5c 9.1 .15 9.1 .e 9.1 .1l 9.1 7.1 .1x 6e.3 .1c 9.2 .1q
   7.1 .24 9.1 .9 7.1 .2y 9.1 7.1 .4y 7.1 9.1 .28 7.2 .g 9.1 .o 6e.7 .3 6e.5 .2h 9.3 .35 9.1 .3 7.1
   .n 6e.1 .2r 9.1 7.1 .6z 9.1 7.1 .3i 9.1 .3a 9.1 7.1 .37 9.1 .7h 9.1 7.1 .76 9.2 .4 7.1 .4c 9.1
   .2b 9.1 .i 9.1 .29 9.1 .bp 9.1 .76 7.1 .1 9.2 .29 9.1 .bt 9.2 .d0s 9.1 .1xc 1.5 .1n 6e.7 .xl 6.2
   .f58 1.1 .43q 60.2 1.3 .3 6a.1 60.5 .8 64.8 .2 6e.5 64.2 .u 6e.4 .44 6e.3 .2pn 6e.7 .1 6e.h .2
   6e.7 .1 6e.2 .1 6e.5 .2s 6e.1 .4g 6e.7 .af 6e.1 .1p 6e.4 .e4 6g.2 64.1 6e.1 .72 6e.1 64.1 .6r
   6e.1 .2 6e.1 .7 6e.2 .5 6e.1 .d6 64.7 .31 6e.6 7.1"

/-- Whether a character is a mark. -/
def isMark (c : Char) : Bool := markRuns.classOf c.toNat = 1

/-- The canonical combining class of a character. -/
def combiningClass (c : Char) : Nat := combiningRuns.classOf c.toNat

/-- The class of the signs that take a vowel away. -/
def virama : Nat := 9

end ComplexityLint.Text
