import ComplexityLint.Disk.Content
import ComplexityLint.Shell.Pattern

/-!
Fields: what the parts of a word come to. Values outside quotes are cut at their blanks; what stands
side by side without a blank is one field. Fields are collected as the finished ones and the one
that is still open, if any.
-/

namespace ComplexityLint.Shell

/-- The fields of a word, as far as it has been read. -/
structure Fields where
  done : List Field := []
  current : Option Field := none

namespace Fields

/-- Adds letters to the open field. -/
def extend (f : Field) (fs : Fields) : Fields := { fs with current := some (fs.current.getD [] ++ f) }

/-- Closes the open field. -/
def close (fs : Fields) : Fields := { done := fs.done ++ fs.current.toList }

/-- Adds letters and cuts at the blanks outside quotes. -/
def split (f : Field) (fs : Fields) : Fields :=
  f.foldl
    (fun fs l =>
      if !l.quoted && (l.char = ' ' || l.char = '\t' || l.char = '\n') then fs.close
      else fs.extend [l])
    fs

/-- Adds some arguments as fields of their own, the first joined to what stands before it. -/
def splice (args : List String) (fs : Fields) : Fields :=
  match args.map (letters true) with
  | [] => fs
  | first :: rest =>
    rest.foldl (fun fs f => fs.close.extend f) (fs.extend first)

end Fields

/-- What output leaves in a word: ends of lines at its end are dropped. -/
def captured (c : Content) : String :=
  String.ofList (c.spelling.toList.reverse.dropWhile (· = '\n')).reverse

end ComplexityLint.Shell
