/-
This file models paths separated by slashes. Cleaning a path drops empty and
single-dot elements and lets a double dot remove the element before it.
-/

import Mathlib.Data.List.Infix

namespace Paths

/-- A cleaned path: whether it starts at the root, and its elements. -/
structure Path where
  rooted : Bool
  parts : List (List Char)
deriving DecidableEq

/-- The element that climbs. -/
def climb : List Char := ['.', '.']

/-- Clean one more element onto the reversed elements so far. -/
def push (rooted : Bool) (stack : List (List Char)) (part : List Char) : List (List Char) :=
  if part = [] ∨ part = ['.'] then stack
  else if part = climb then
    match stack with
    | [] => if rooted then [] else [climb]
    | last :: rest => if last = climb then climb :: stack else rest
  else part :: stack

/-- `filepath.Clean`, by elements. -/
def clean (text : String) : Path :=
  let rooted := decide (text.toList.head? = some '/')
  { rooted
    parts := ((text.toList.splitOnP (· = '/')).foldl (push rooted) []).reverse }

/-- The text of a cleaned path. -/
def Path.text (path : Path) : String :=
  match path.rooted, path.parts with
  | true, parts => String.ofList ('/' :: List.intercalate ['/'] parts)
  | false, [] => "."
  | false, parts => String.ofList (List.intercalate ['/'] parts)

/-- An absolute path that cleaning leaves as it is. -/
def CleanAbsolute (text : String) : Prop := (clean text).rooted = true ∧ (clean text).text = text
deriving Decidable

example : (clean "/a//b/./../c/").text = "/a/c" := by decide

example : (clean "../x/..").text = ".." := by decide

end Paths
