import TrackerTraffic.Bytes.Percent
import TrackerTraffic.Text.CodeTable

/-!
# Paths of URLs

A path is a list of segments.  Segments of dots are carried out: one dot stays where it
is, two dots take the segment before away.  In file paths a drive letter is not taken
away, and at the start it counts as a host.
-/

namespace TrackerTraffic.Url

/-- The kinds of schemes: files, those with a host always, and the rest. -/
inductive SchemeKind where
  | file
  | special
  | other
deriving DecidableEq

/-- The bytes that a path escapes besides those above ASCII. -/
def isEscapedInPath (b : UInt8) : Bool :=
  b.toNat ≤ 32 || b.toNat == 127 ||
    ['"', '#', '<', '>', '?', '`', '\x7b', '\x7d'].contains (Char.ofNat b.toNat)

/-- The bytes that a query escapes besides those above ASCII. -/
def isEscapedInQuery (kind : SchemeKind) (b : UInt8) : Bool :=
  b.toNat ≤ 32 || b.toNat == 127 || ['"', '#', '<', '>'].contains (Char.ofNat b.toNat) ||
    (kind != .other && b.toNat == 39)

/-! ### Segments -/

def isSingleDot (segment : List Char) : Bool :=
  let s := String.ofList (segment.map Char.toLower)
  s == "." || s == "%2e"

def isDoubleDot (segment : List Char) : Bool :=
  let s := String.ofList (segment.map Char.toLower)
  s == ".." || s == ".%2e" || s == "%2e." || s == "%2e%2e"

/-- A letter and a colon or a bar. -/
def isDriveLetter : List Char → Bool
  | [letter, sign] => letter.isAlpha && (sign == ':' || sign == '|')
  | _ => false

def isSlash (kind : SchemeKind) (c : Char) : Bool := c == '/' || (c == '\\' && kind != .other)

/-- The segments that have been finished, newest first, and whether a drive letter took the host. -/
structure Way where
  segments : List (List Char)
  hasDrive : Bool

namespace Way

/-- The way without its last segment; a drive letter stays. -/
def back (kind : SchemeKind) (w : Way) : Way :=
  match w.segments with
  | last :: rest => if kind = .file ∧ isDriveLetter last then w else { w with segments := rest }
  | [] => w

/-- A segment as it is kept: a drive letter at the start of a file path has a colon. -/
def keep (kind : SchemeKind) (w : Way) (segment : List Char) : List Char × Bool :=
  if kind = .file ∧ w.segments.isEmpty ∧ isDriveLetter segment then
    (segment.take 1 ++ [':'], true)
  else (segment, w.hasDrive)

/-- The way after a segment that a slash ends. -/
def pass (kind : SchemeKind) (w : Way) (segment : List Char) : Way :=
  if isDoubleDot segment then w.back kind
  else if isSingleDot segment then w
  else
    let (kept, hasDrive) := w.keep kind segment
    ⟨kept :: w.segments, hasDrive⟩

/-- The way with the last segment, which is empty if it says where to go. -/
def finish (kind : SchemeKind) (w : Way) (segment : List Char) : Way :=
  if isDoubleDot segment then
    let w := w.back kind
    ⟨[] :: w.segments, w.hasDrive⟩
  else if isSingleDot segment then ⟨[] :: w.segments, w.hasDrive⟩
  else
    let (kept, hasDrive) := w.keep kind segment
    ⟨kept :: w.segments, hasDrive⟩

/-- The path with a slash in front of each segment. -/
def text (w : Way) : List Char := w.segments.reverse.flatMap ('/' :: ·)

end Way

/-- The path of the text behind its first slash, and whether it starts with a drive letter. -/
def resolvePath (kind : SchemeKind) (cs : List Char) : List Char × Bool :=
  let plain := cs.map fun c => if isSlash kind c then '/' else c
  let segments := (CodeTable.cutAt '/' plain).map (Percent.encode isEscapedInPath)
  let w := (segments.dropLast.foldl (Way.pass kind) ⟨[], false⟩).finish kind
    (segments.getLast?.getD [])
  if kind = .file then ('/' :: w.text.dropWhile (· == '/'), w.hasDrive) else (w.text, w.hasDrive)

end TrackerTraffic.Url
