import ComplexityLint.Text.Combining

/-!
Letters that join: how each takes part in cursive writing, and where the invisible signs stand that
ask for a joint or against one. Such a sign is at home behind a virama; the sign against a joint
also between two letters that would join.
-/

namespace ComplexityLint.Uri.Domain

open Text

/-- How letters join: to the left (1), to the right (2), to both sides (3), or not at all but with
no break to a joint (4). -/
def joiningRuns : Runs := runsOf
  ".lc 4.35 .7m 4.8 .7a 4.19 .1 4.1 .1 4.2 .1 4.2 .1 4.9 .1s 4.b .5 3.1 .1 2.4 3.1 2.1 3.1 2.1 3.5
   2.4 3.d .1 3.7 2.1 3.2 4.l .e 3.2 4.1 2.3 .5 3.f 2.i 3.12 2.1 3.2 2.9 3.1 2.1 3.1 2.1 3.2 2.2 .1
   2.1 4.8 .1 4.6 .2 4.2 .1 4.4 2.2 .a 3.3 .2 3.1 .g 2.1 4.1 3.3 2.5 3.4 2.1 3.9 2.1 3.1 2.1 3.1
   2.1 3.2 2.1 4.t 2.1 3.b 2.3 3.f 2.2 3.4 2.1 3.1 2.2 3.3 2.2 3.6 .12 4.b .p 3.x 4.9 .9 4.1 .o 4.4
   .1 4.9 .1 4.3 .1 4.7 .g 2.1 3.5 2.2 3.1 2.1 3.a 2.1 3.1 2.3 4.5 .2 3.1 .1 3.4 .1 2.1 3.1 2.q .3
   3.1 .2 3.5 2.1 3.8 4.9 3.a 2.3 .1 2.1 3.2 2.2 3.6 2.1 3.f .1 4.1l .1j 4.1 .1 4.1 .4 4.8 .4 4.1
   .3 4.f .2 4.2 .t 4.1 .1m 4.1 .4 4.6 .6 4.1 .k 4.4 .o 4.5 .1l 4.2 .3 4.r .k 4.2 .3 4.1 .b 4.2 .1l
   4.1 .4 4.8 .4 4.3 .i 4.4 .k 4.8 .1m 4.1 .2 4.1 .1 4.6 .6 4.a .b 4.4 .s 4.1 .1p 4.1 .c 4.3 .1c
   4.1 .3 4.1 .1j 4.1 .1 4.3 .5 4.i .a 4.4 .r 4.1 .1m 4.1 .2 4.1 .6 4.1 .5 4.9 .d 4.4 .q 4.2 .1l
   4.2 .4 4.5 .7 4.1 .k 4.4 .r 4.1 .20 4.5 .3 4.6 .2h 4.1 .2 4.b .8 4.8 .2q 4.1 .2 4.9 .b 4.8 .20
   4.2 .r 4.1 .1 4.1 .1 4.1 .1j 4.e .1 4.5 .1 4.2 .5 4.1d .8 4.1 .2u 4.4 .1 4.6 .1 4.2 .2 4.2 .p
   4.2 .4 4.3 .g 4.4 .d 4.1 .2 4.2 .6 4.1 .f 4.1 .jj 4.3 .qa 4.3 .t 4.2 .u 4.e .i 4.e .1j 4.7 .8
   4.1 .2 4.b .9 4.3 .13 3.1 .o 3.2o .5 4.2 3.y 4.1 3.6 .34 4.3 .4 4.2 .9 4.1 .6 4.7 .5z 4.2 .2 4.3
   .1k 4.1 .1 4.9 .1 4.1 .2 4.8 .6 4.d .1c 4.2c .1c 4.1 .1 4.5 .1 4.1 .5 4.1 .14 4.9 .c 4.2 .w 4.4
   .2 4.2 .1 4.3 .1k 4.1 .1 4.2 .3 4.1 .1 4.3 .1m 4.8 .2 4.5 .45 4.3 .1 4.d .1 4.7 .4 4.1 .6 4.1 .3
   4.2 .5i 4.1t .jz 4.1g .2cr 4.4 .3w 4.1 .2o 4.w .fe 4.4 .2z 4.4 .n9u 4.4 .1 4.a .w 4.2 .28 4.2
   .7k 4.1 .3 4.1 .4 4.1 .p 4.2 .5 4.4 .g 3.1e 1.1 .29 4.a .i 4.i .d 4.1 .12 4.8 .p 4.b .1a 4.3 .1c
   4.1 .2 4.4 .2 4.2 .13 4.1 .1v 4.6 .2 4.2 .2 4.b .3 4.1 .8 4.1 .1b 4.1 .1f 4.1 .1 4.3 .2 4.2 .5
   4.2 .1 4.1 .16 4.2 .8 4.b .6c 4.1 .2 4.1 .4 4.3 .fn2 4.44 .ha 4.11 .qg 4.3n .2o 4.1 .45 4.a .1a9
   4.f .14 4.8 .3k 3.5 2.1 .1 2.1 .1 2.2 .2 1.1 2.5 3.4 1.1 3.5 2.1 3.3 2.1 .2 2.1 4.6 3.4 2.1 .40
   3.1 2.1 3.1 2.3 3.3 2.1 3.2 2.1 3.1 2.2 3.1 2.8 .g 2.4 3.2 .9d 1.1 3.x 2.1 3.1 4.c .1l 4.5 .8t
   4.2 .l 2.1 3.2 .1 3.a .16 4.6 .1c 3.3 2.1 3.h .1 4.b 3.3 2.1 .r 3.4 2.2 3.c 4.4 .16 3.1 .1 3.2
   2.3 .1 3.1 2.2 3.2 2.1 3.2 .1 3.1 2.2 3.1 .4 2.1 3.1 1.l .x 4.1 .1i 4.f .15 4.1 .2 4.2 .a 4.3
   .1d 4.4 .2 4.2 .7 4.e .1c 4.3 .10 4.5 .1 4.9 .1p 4.1 .c 4.2 .1g 4.9 .a 4.4 .2 4.1 .2n 4.3 .2 4.1
   .1 4.2 .6 4.1 .2 4.1r .2n 4.1 .3 4.d .g 4.2 .1l 4.2 .3 4.1 .11 4.q .1n 4.7 .c 4.1 .1 4.1 .1 4.1
   .e 4.v .1k 4.8 .2 4.3 .1 4.1 .n 4.1 .2c 4.6 .1 4.1 .4 4.2 .1 4.2 .6m 4.6 .4 4.2 .1 4.2 .r 4.10
   .1f 4.8 .2 4.1 .1 4.2 .2y 4.1 .1 4.1 .2 4.6 .1 4.1 .2t 4.1 .1 4.1 .2 4.4 .1 4.9 .73 4.9 .1 4.2
   .74 4.2 .1 4.1 .4 4.1 .40 4.8 .4 4.1 .w 4.a .14 4.6 .2 4.4 .8 4.9 .1 4.6 .2 4.3 .1a 4.d .1 4.2
   .5i 4.1 .1 4.3 .1 4.1 .5l 4.e .1 4.1 .2a 4.n .1 4.7 .1 4.2 .1 4.23 .1d 4.l .1 4.9 .1s 4.3 .2 4.1
   .1 4.1 .9n 4.2 .b 4.2 .1g 4.8 .2 4.1 .1 4.1 .n 4.2e .428 4.1 .6 4.p .8u6 4.c .3 4.3 .1xc 4.5 .1n
   4.7 .t4 4.1 .1r 4.4 .29 4.c .f59 4.2 .3mp 4.28 .ev 4.3 .h 4.8 .2 4.7 .u 4.4 .44 4.3 .1iz 4.1j .4
   4.1e .8 4.1 .e 4.1 .m 4.v9 .74 4.74 .1c 4.7 .af 4.i .18 4.4 .e4 4.4 .72 4.2 .6r 4.1 .2 4.1 .7
   4.2 .5 4.9 .cy 4.2a 3.y 4.c"

/-- How a letter joins. -/
inductive Joining
  | none
  | left
  | right
  | both
  | transparent
deriving DecidableEq

/-- How a character joins. -/
def Joining.ofChar (c : Char) : Joining :=
  match joiningRuns.classOf c.toNat with
  | 1 => left
  | 2 => right
  | 3 => both
  | 4 => transparent
  | _ => none

/-- The sign against a joint. -/
def nonJoiner : Char := '\u200C'

/-- The sign for a joint. -/
def joiner : Char := '\u200D'

/-- The first letter that is not transparent. -/
def nextJoining (s : List Char) : Joining :=
  match (s.map Joining.ofChar).dropWhile (· = .transparent) with
  | [] => .none
  | j :: _ => j

/-- Whether the joining signs of a text are at home. What stands before it comes last one first. -/
def joinsFrom (before : List Char) : List Char → Bool
  | [] => true
  | c :: s =>
    let behindVirama := before.head?.any fun b => combiningClass b = virama
    let fits :=
      if c = joiner then behindVirama
      else if c = nonJoiner then
        behindVirama || ([.left, .both].contains (nextJoining before)
          && [.right, .both].contains (nextJoining s))
      else true
    fits && joinsFrom (c :: before) s

/-- Whether the joining signs of a label are at home. -/
def joins (label : List Char) : Bool := joinsFrom [] label

end ComplexityLint.Uri.Domain
