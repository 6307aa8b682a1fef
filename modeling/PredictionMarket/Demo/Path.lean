import PredictionMarket.Demo

/-!
# Paths

A path is a row of steps with slashes between them. Empty steps and single points lead nowhere, and
two points lead up. A path without any other step leads to a directory. Paths and their steps must
not be too long, and they are counted in octets.
-/

namespace PredictionMarket.Demo

/-- The slash. -/
def slash : CodePoint := CodePoint.ofChar '/'

/-- Whether a path may hold a code point. Of the surrogates it may hold those that stand for an
octet of their own. -/
def isPathPoint (c : CodePoint) : Bool :=
  !c.isSurrogate || (0xDC80 ≤ c.val && c.val ≤ 0xDCFF)

/-- The number of octets of a text in a path. -/
def octetCount (t : Text) : Nat :=
  t.foldl (fun count c => count + if c.isSurrogate then 1 else c.utf8.length) 0

/-- The number of octets that a path has less than. -/
def pathBound : Nat := 4096

/-- The most octets of a step. -/
def longestStep : Nat := 255

/-- The steps of a path that lead somewhere. -/
def stepsOf (path : Text) : List Text :=
  (path.splitOn slash).filter fun step => !step.isEmpty && step ≠ Text.ofString "."

/-- What a path begins with: no slash, one, or two if there are exactly two. -/
def rootOf (path : Text) : Text :=
  let slashes := path.takeWhile (· = slash)
  if slashes.length = 2 then slashes else slashes.take 1

/-- A path without the steps that lead nowhere. -/
def plainPath (path : Text) : Text :=
  let plain := rootOf path ++ Text.join "/" (stepsOf path)
  if plain.isEmpty then "." else plain

/-- The path that a value is. The first step that does not lead up is the first one that may be
missing, so it is looked at before all others. -/
def readPath : Value → Except DemoError Text
  | .text path => do
    refuseIf (¬path.all isPathPoint) .pathNotEncodable
    refuseIf (path.contains 0) .impossiblePath
    let plain := plainPath path
    refuseIf (pathBound ≤ octetCount plain) (.pathTooLong plain)
    match (stepsOf path).find? (· ≠ Text.ofString "..") with
    | none => .error (.directory plain)
    | some step =>
      refuseIf (longestStep < octetCount step) (.pathTooLong plain)
      return plain
  | _ => .error .notAPath

/-- What is found at a path. -/
inductive Found where
  /-- A document. -/
  | document (t : Text)
  /-- A directory. -/
  | directory
  /-- Nothing. -/
  | nothing

end PredictionMarket.Demo
