import Pmiri.Python.Text

/-!
# Paths

`pathlib.Path` on the two families of systems, as far as a text is asked for
its parts and for being absolute: `posixpath.splitroot`, `ntpath.splitroot` and
the parsing that `PurePath` adds to them.
-/

namespace Py

inductive Platform where
  | posix
  | windows
deriving DecidableEq

/-- A parsed path: its drive, its root, and its other parts. -/
structure PurePath where
  drive : List Char := []
  root : List Char := []
  tail : List (List Char)
deriving DecidableEq

namespace PurePath

/-- `s.replace(a, b)` for two characters. -/
def replaceChar (a b : Char) (cs : List Char) : List Char := cs.map fun c => if c = a then b else c

/-- `[x for x in rel.split(sep) if x and x != "."]` -/
def segments (sep : Char) (rel : List Char) : List (List Char) :=
  (splitOn sep rel).filter fun x => !x.isEmpty && x != ['.']

/-- `posixpath.splitroot` -/
def posixSplitroot : List Char → List Char × List Char
  | '/' :: '/' :: '/' :: rest => (['/'], '/' :: '/' :: rest)
  | '/' :: '/' :: rest => (['/', '/'], rest)
  | '/' :: rest => (['/'], rest)
  | cs => ([], cs)

/-- A drive that ends at the second separator of `rest`, if there is one. -/
def uncSplit (start rest : List Char) : List Char × List Char × List Char :=
  match partition '\\' rest with
  | (_, _, false) => (start ++ rest, [], [])
  | (a, afterA, true) =>
    match partition '\\' afterA with
    | (_, _, false) => (start ++ rest, [], [])
    | (b, afterB, true) => (start ++ a ++ '\\' :: b, ['\\'], afterB)

/-- `ntpath.splitroot`, for a text without forward slashes. -/
def ntSplitroot (cs : List Char) : List Char × List Char × List Char :=
  match cs with
  | '\\' :: '\\' :: rest =>
    if (cs.take 8).map upperAscii = "\\\\?\\UNC\\".toList then uncSplit (cs.take 8) (cs.drop 8)
    else uncSplit ['\\', '\\'] rest
  | '\\' :: rest => ([], ['\\'], rest)
  | c :: ':' :: '\\' :: rest => ([c, ':'], ['\\'], rest)
  | c :: ':' :: rest => ([c, ':'], [], rest)
  | _ => ([], [], cs)

/-- The root that `PurePath` gives a drive such as `\\server\share`. -/
def implicitRoot (drive root : List Char) : List Char :=
  if root.isEmpty && drive.head? == some '\\' && drive.getLast? != some '\\' then
    match splitOn '\\' drive with
    | [_, _, kind, _] => if [[], ['?'], ['.'], ['?', '.']].contains kind then [] else ['\\']
    | [_, _, _, _, _, _] => ['\\']
    | _ => []
  else root

/-- `Path(text)` -/
def ofText (platform : Platform) (text : List Char) : PurePath :=
  match platform with
  | .posix => { root := (posixSplitroot text).1, tail := segments '/' (posixSplitroot text).2 }
  | .windows =>
    let (drive, root, rel) := ntSplitroot (replaceChar '/' '\\' text)
    { drive := drive, root := implicitRoot drive root, tail := segments '\\' rel }

/-- `path.is_absolute()` -/
def isAbsolute (platform : Platform) (p : PurePath) : Bool :=
  match platform with
  | .posix => !p.root.isEmpty
  | .windows => !p.drive.isEmpty && !p.root.isEmpty

/-- `path.parts` -/
def parts (p : PurePath) : List (List Char) :=
  if p.drive.isEmpty && p.root.isEmpty then p.tail else (p.drive ++ p.root) :: p.tail

theorem replaceChar_replaceChar (a b : Char) (cs : List Char) :
    replaceChar a b (replaceChar b a cs) = replaceChar a b cs := by
  rw [replaceChar, replaceChar, replaceChar, List.map_map]
  refine List.map_congr_left fun c _ => ?_
  by_cases h : c = b
  · by_cases h' : b = a <;> simp [h, h']
  · simp [h]

theorem replaceChar_self (a b : Char) (cs : List Char) : replaceChar a b (replaceChar a b cs) = replaceChar a b cs := by
  rw [replaceChar, replaceChar, List.map_map]
  refine List.map_congr_left fun c _ => ?_
  by_cases h : c = a
  · by_cases h' : b = a <;> simp [h, h']
  · simp [h]

/-- On Windows the two separators are alike. -/
theorem ofText_windows_replace (cs : List Char) : ofText .windows (replaceChar '\\' '/' cs) = ofText .windows cs := by
  simp only [ofText, replaceChar_replaceChar]

/-- What is cut off a text that does not begin with a separator: at most a drive letter and its root. -/
theorem ntSplitroot_cases {cs : List Char} (h : cs.head? ≠ some '\\') :
    (∃ c rest, cs = c :: ':' :: '\\' :: rest ∧ ntSplitroot cs = ([c, ':'], ['\\'], rest)) ∨
      (∃ c rest, cs = c :: ':' :: rest ∧ ntSplitroot cs = ([c, ':'], [], rest)) ∨
      ntSplitroot cs = ([], [], cs) := by
  unfold ntSplitroot
  split
  · exact absurd rfl h
  · exact absurd rfl h
  · exact .inl ⟨_, _, rfl, rfl⟩
  · exact .inr (.inl ⟨_, _, rfl, rfl⟩)
  · exact .inr (.inr rfl)

end PurePath

end Py
