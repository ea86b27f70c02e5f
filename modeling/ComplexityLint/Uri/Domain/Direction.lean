import ComplexityLint.Text.Runs

/-!
Directions of writing: which characters run from left to right and which from right to left, and the
labels in which the two cannot be mixed up.
-/

namespace ComplexityLint.Uri.Domain

open Text

/-- Directions: from right to left (1), Arabic (2) and European (3) numbers, neutral characters (4),
marks (5) and signs that set a direction (6). All others run from left to right. -/
def directionRuns : Runs := runsOf
  "4.9 6.5 4.e 6.5 4.f 3.a 4.13 .q 4.2s .o 4.1 .ch 4.2 .7 4.e .2 4.s .1 4.h 5.35 .4 4.2 .3j 4.2 .3v
   5.8 .73 4.7 5.19 1.1 5.1 1.1 5.2 1.1 5.2 1.1 5.9 1.1i 4.2 1.1 4.2 1.1 4.1 1.1 4.2 5.b 1.1c 5.l
   2.a 4.1 2.2 1.3 5.1 1.2t 5.8 4.1 5.6 1.2 5.2 4.1 5.4 1.2 3.a 1.n 5.1 1.u 5.t 1.2h 5.b 1.1m 5.9
   1.2 4.4 1.3 5.1 1.o 5.4 1.1 5.9 1.1 5.3 1.1 5.7 1.15 5.5 1.1l 5.9 1.16 5.1l .1j 5.1 .1 5.1 .4
   5.8 .4 5.1 .3 5.f .2 5.2 .t 5.1 .1m 5.1 .4 5.6 .6 5.1 .k 5.4 .c 4.2 .7 4.1 .2 5.5 .1l 5.2 .3 5.r
   .k 5.2 .3 5.1 .b 5.2 .1l 5.1 .4 5.8 .4 5.3 .i 5.4 .b 4.8 .1 5.8 .1m 5.1 .2 5.1 .1 5.6 .6 5.a .b
   5.4 .s 5.1 .1p 5.1 .c 5.3 .z 4.d 5.1 .3 5.1 .1j 5.1 .1 5.3 .5 5.i .a 5.4 .i 4.7 .2 5.1 .1m 5.1
   .f 5.9 .d 5.4 .q 5.2 .1l 5.2 .4 5.5 .7 5.1 .k 5.4 .r 5.1 .20 5.5 .3 5.6 .2h 5.1 .2 5.b 4.1 .7
   5.8 .2q 5.1 .2 5.9 .b 5.8 .20 5.2 .r 5.1 .1 5.1 .1 5.1 4.4 .1f 5.e .1 5.5 .1 5.2 .5 5.1d .8 5.1
   .2u 5.4 .1 5.6 .1 5.2 .2 5.2 .p 5.2 .4 5.3 .g 5.4 .d 5.1 .2 5.2 .6 5.1 .f 5.1 .jj 5.3 .1c 4.g
   .2o 4.1 .ii 4.5 .36 5.3 .t 5.2 .u 5.e .i 5.e .1j 5.7 .8 5.1 .2 5.b .7 4.1 .1 5.3 .g 4.w .39 5.2
   .y 5.1 .3a 5.3 .4 5.2 .9 5.1 .6 5.7 4.6 .48 4.y .n 5.2 .2 5.3 .1k 5.1 .1 5.9 .1 5.1 .2 5.8 .6
   5.d .1c 5.2c .1c 5.1 .1 5.5 .1 5.1 .5 5.1 .b 4.2 .r 5.9 .b 4.1 5.2 .w 5.4 .2 5.2 .1 5.3 .1k 5.1
   .1 5.2 .3 5.1 .1 5.3 .1m 5.8 .2 5.5 .45 5.3 .1 5.d .1 5.7 .4 5.1 .6 5.1 .3 5.2 .5i 5.1t .ej 4.5g
   5.1g 4.22 .1o 4.bw .1x 4.q .1 4.ly .1 4.9f .74 4.mo .51 4.7 .3 5.4 .6 4.7 .3j 5.1 .2o 5.w 4.ed
   .3 4.p .9 5.4 .2 4.1 .6 4.4 .2 4.4 .2g 5.4 .3 4.1 .2i 4.1 .5g 4.1c .5hs 4.1s .h3k 4.1s .8t 4.3
   .2n 5.4 4.1 5.a 4.3 .t 5.2 .28 5.2 .e 4.z .2t 4.1 .3d 5.1 .3 5.1 .4 5.1 .p 5.2 .1 4.4 5.4 .8 4.8
   .1g 4.c .1w 5.a .i 5.i .d 5.1 .12 5.8 .p 5.b .1a 5.3 .1c 5.1 .2 5.4 .2 5.2 .13 5.1 .1v 5.6 .2
   5.2 .2 5.b .3 5.1 .8 5.1 .1b 5.1 .1f 5.1 .1 5.3 .2 5.2 .5 5.2 .1 5.1 .16 5.2 .8 5.b .2x 4.2e .11
   5.1 .2 5.1 .4 5.3 .fn2 5.44 1.h 4.gt 5.11 4.1a 1.b1 .75 4.1 .1q 4.25 .3 4.1s .19 5.3n .2o 5.1
   3.v .3a 5.a .w0 1.7z 4.1 1.69 5.f 1.14 5.8 1.4l 5.6 1.26 4.7 1.dg 5.c 2.g 1.15 5.5 1.6q 2.w 1.17
   5.2 1.z 4.16 5.6 1.1y 5.b 1.1d 5.4 1.3e .1 5.1 .1i 5.f .b 4.k .a 5.1 .2 5.2 .a 5.3 .1d 5.4 .2
   5.2 .7 5.e .1c 5.3 .10 5.5 .1 5.9 .1p 5.1 .c 5.2 .1g 5.9 .a 5.4 .2 5.1 .2n 5.3 .2 5.1 .1 5.2 .6
   5.1 .2 5.1r .2n 5.1 .3 5.d .g 5.2 .1l 5.2 .3 5.1 .11 5.q .1n 5.7 .c 5.1 .1 5.1 .1 5.1 .1 4.d 5.v
   .1k 5.8 .2 5.3 .1 5.1 .n 5.1 .2c 5.6 .1 5.1 .4 5.2 .1 5.2 .6m 5.6 .4 5.2 .1 5.2 .r 5.10 .1f 5.8
   .2 5.1 .1 5.2 .v 4.w .17 5.1 .1 5.1 .2 5.6 .1 5.1 .2t 5.3 .2 5.4 .1 5.9 .73 5.9 .1 5.2 .74 5.2
   .1 5.1 .4 5.1 .40 5.8 .4 5.1 .w 5.6 .2 5.2 .14 5.6 .2 5.4 .8 5.9 .1 5.6 .2 5.3 .1a 5.d .1 5.2
   .5i 5.1 .1 5.3 .1 5.1 .3e 4.f .1s 5.e .2c 5.n .1 5.7 .1 5.2 .1 5.23 .1d 5.l .1 5.9 .1s 5.3 .2
   5.1 .1 5.1 .9n 5.2 .b 5.2 .1g 5.8 .2 5.1 .1 5.1 .n 5.2e .11 4.16 .401 5.1 .6 5.p .8u6 5.c .3 5.3
   .1xc 5.5 .1n 5.7 .fq 4.3 .db 5.1 .1r 5.4 .27 4.1 .1 5.c .f59 5.2 .31d 4.lc 5.28 .ev 5.3 .h 5.8
   .2 5.7 .u 5.4 .1n 4.2h 5.3 4.3f .1s 4.2o .1b4 5.1j .4 5.1e .8 5.1 .e 5.1 .m 5.v9 .74 5.74 .1c
   5.7 .af 5.i .18 5.4 .f 4.cx .s 5.4 .72 5.2 .f 4.5d .z 5.1 .2 5.1 .7 5.2 .5 5.9 .76 1.5s 5.2a 1.y
   5.7 1.145 4.gw .t 4.3 .1p 4.1l .3e 4.2ow"

/-- Which way a character runs. -/
inductive Direction
  | leftToRight
  | rightToLeft
  | arabicNumber
  | europeanNumber
  | neutral
  | mark
  | other
deriving DecidableEq

namespace Direction

/-- Which way a character runs. -/
def ofChar (c : Char) : Direction :=
  match directionRuns.classOf c.toNat with
  | 0 => leftToRight
  | 1 => rightToLeft
  | 2 => arabicNumber
  | 3 => europeanNumber
  | 4 => neutral
  | 5 => mark
  | _ => other

/-- Whether a character makes a name one that runs both ways. -/
def isBackward (d : Direction) : Bool := d = rightToLeft || d = arabicNumber

end Direction

open Direction in
/-- Whether a label of a name that runs both ways reads one way: it starts with a letter, holds only
what can run that way, and ends with a letter or a number that does. Numbers of both kinds do not
stand in one label. -/
def readsOneWay (label : List Char) : Bool :=
  let ds := label.map Direction.ofChar
  let last := (ds.reverse.dropWhile (· = mark)).head?
  match ds.head? with
  | some rightToLeft =>
    ds.all ([rightToLeft, arabicNumber, europeanNumber, neutral, mark].contains ·)
      && last.any ([rightToLeft, europeanNumber, arabicNumber].contains ·)
      && !(ds.contains arabicNumber && ds.contains europeanNumber)
  | some leftToRight =>
    ds.all ([leftToRight, europeanNumber, neutral, mark].contains ·)
      && last.any ([leftToRight, europeanNumber].contains ·)
  | _ => false

end ComplexityLint.Uri.Domain
