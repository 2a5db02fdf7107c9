import TrackerTraffic.Bytes.Basic
import TrackerTraffic.Number.Power

/-!
# Inflating DEFLATE streams

The stream is a list of bits, the low bit of each byte first.  Every symbol of a
code takes at least one bit, so reading ends with the stream.  Output is kept
newest byte first: a match at a distance copies from that many bytes back.
-/

namespace TrackerTraffic.Inflate

abbrev Bits := List Bool

/-! ### Bits -/

/-- The bits of a byte, low bit first. -/
def bitsOfByte (b : UInt8) : Bits :=
  (List.range 8).map fun i => b.toNat / pow2 i % 2 == 1

def bitsOfBytes (bytes : Bytes) : Bits := bytes.flatMap bitsOfByte

/-- A number of so many bits, low bit first, and the bits after it. -/
def takeNumber? : Nat → Bits → Option (Nat × Bits)
  | 0, bits => some (0, bits)
  | _ + 1, [] => none
  | count + 1, b :: rest => do
    let (n, after) ← takeNumber? count rest
    return (2 * n + b.toNat, after)

/-- So many whole bytes and the bits after them. -/
def takeBytes? : Nat → Bits → Option (Bytes × Bits)
  | 0, bits => some ([], bits)
  | count + 1, bits => do
    let (n, rest) ← takeNumber? 8 bits
    let (bytes, after) ← takeBytes? count rest
    return (UInt8.ofNat n :: bytes, after)

/-! ### Codes -/

/-- A canonical prefix code: how many code words each length has, and the symbols in their order. -/
structure Code where
  counts : List Nat
  symbols : List Nat

/-- The canonical code of the lengths of symbols `0, 1, …`; length zero leaves a symbol out. -/
def Code.ofLengths (lengths : List Nat) : Code :=
  let numbered := lengths.zipIdx
  { counts := (List.range 15).map fun i => lengths.countP (· == i + 1)
    symbols := (List.range 15).flatMap fun i =>
      (numbered.filter fun entry => entry.1 == i + 1).map Prod.snd }

/--
Every string of bits starts with a code word, or the code has at most one symbol
and `sparse` allows that.
-/
def Code.isComplete (code : Code) (sparse : Bool) : Bool :=
  let total := code.counts.foldl (fun total count => (total + count) * 2) 0
  total == pow2 16 || (sparse && code.symbols.length ≤ 1)

/--
Reads one symbol.  `word` is the code word read so far, `first` the first code
word of the next length less the doubling, and `index` its symbol's place.
-/
def decodeSymbol? (symbols : List Nat) : List Nat → Nat → Nat → Nat → Bits → Option (Nat × Bits)
  | [], _, _, _, _ => none
  | _ :: _, _, _, _, [] => none
  | count :: counts, word, first, index, b :: rest =>
    let word := 2 * word + b.toNat
    let first := 2 * first
    if word < first + count then
      (symbols[index + (word - first)]?).map (·, rest)
    else decodeSymbol? symbols counts word (first + count) (index + count) rest

def Code.decode? (code : Code) (bits : Bits) : Option (Nat × Bits) :=
  decodeSymbol? code.symbols code.counts 0 0 0 bits

theorem decodeSymbol?_length {symbols counts : List Nat} {word first index : Nat}
    {bits r : Bits} {s : Nat}
    (h : decodeSymbol? symbols counts word first index bits = some (s, r)) :
    r.length < bits.length := by
  fun_induction decodeSymbol? symbols counts word first index bits with
  | case1 => simp at h
  | case2 => simp at h
  | case3 count counts word first index b tail =>
    obtain ⟨x, -, hx⟩ := Option.map_eq_some_iff.1 h
    simp only [Prod.mk.injEq] at hx
    simp [← hx.2]
  | case4 count counts word first index b tail _ _ _ ih =>
    have := ih h
    simp only [List.length_cons]
    omega

theorem takeNumber?_length {count : Nat} {bits r : Bits} {n : Nat}
    (h : takeNumber? count bits = some (n, r)) : r.length ≤ bits.length := by
  fun_induction takeNumber? count bits generalizing n r with
  | case1 => simp at h; simp [h]
  | case2 => simp at h
  | case3 count b tail ih =>
    cases hr : takeNumber? count tail with
    | none => simp [hr] at h
    | some p =>
      have := ih (n := p.1) (r := p.2) hr
      simp [hr] at h
      grind

/-! ### Tables of the format -/

/-- The base and the extra bits of the length symbols from 257. -/
def lengthTable : List (Nat × Nat) :=
  [(3, 0), (4, 0), (5, 0), (6, 0), (7, 0), (8, 0), (9, 0), (10, 0), (11, 1), (13, 1), (15, 1),
    (17, 1), (19, 2), (23, 2), (27, 2), (31, 2), (35, 3), (43, 3), (51, 3), (59, 3), (67, 4),
    (83, 4), (99, 4), (115, 4), (131, 5), (163, 5), (195, 5), (227, 5), (258, 0)]

/-- The base and the extra bits of the distance symbols. -/
def distanceTable : List (Nat × Nat) :=
  [(1, 0), (2, 0), (3, 0), (4, 0), (5, 1), (7, 1), (9, 2), (13, 2), (17, 3), (25, 3), (33, 4),
    (49, 4), (65, 5), (97, 5), (129, 6), (193, 6), (257, 7), (385, 7), (513, 8), (769, 8),
    (1025, 9), (1537, 9), (2049, 10), (3073, 10), (4097, 11), (6145, 11), (8193, 12),
    (12289, 12), (16385, 13), (24577, 13)]

/-- The order in which the lengths of the code of lengths are written. -/
def lengthOrder : List Nat := [16, 17, 18, 0, 8, 7, 9, 6, 10, 5, 11, 4, 12, 3, 13, 2, 14, 1, 15]

def fixedLiterals : Code :=
  Code.ofLengths (List.replicate 144 8 ++ List.replicate 112 9 ++ List.replicate 24 7 ++
    List.replicate 8 8)

def fixedDistances : Code := Code.ofLengths (List.replicate 32 5)

/-! ### Blocks -/

/-- A number from a table of bases and extra bits. -/
def takeExtra? (table : List (Nat × Nat)) (symbol : Nat) (bits : Bits) : Option (Nat × Bits) := do
  let (base, extra) ← table[symbol]?
  let (n, rest) ← takeNumber? extra bits
  return (base + n, rest)

theorem takeExtra?_length {table : List (Nat × Nat)} {symbol n : Nat} {bits r : Bits}
    (h : takeExtra? table symbol bits = some (n, r)) : r.length ≤ bits.length := by
  unfold takeExtra? at h
  cases ht : table[symbol]? with
  | none => simp [ht] at h
  | some e =>
    cases hn : takeNumber? e.2 bits with
    | none => simp [ht, hn] at h
    | some p =>
      have := takeNumber?_length (n := p.1) (r := p.2) hn
      simp [ht, hn] at h
      grind

/-- Repeats what stands `distance` bytes back, `count` times one byte. -/
def copyBack? (distance : Nat) : Nat → Array UInt8 → Option (Array UInt8)
  | 0, out => some out
  | count + 1, out =>
    if distance = 0 then none
    else if distance ≤ out.size then
      match out[out.size - distance]? with
      | some b => copyBack? distance count (out.push b)
      | none => none
    else none

/-- The length and the distance of a match whose length symbol has been read. -/
def takeMatch? (distances : Code) (symbol : Nat) (bits : Bits) : Option ((Nat × Nat) × Bits) := do
  let (length, bits) ← takeExtra? lengthTable (symbol - 257) bits
  let (symbol, bits) ← distances.decode? bits
  let (distance, bits) ← takeExtra? distanceTable symbol bits
  return ((length, distance), bits)

theorem takeMatch?_length {distances : Code} {symbol : Nat} {bits r : Bits} {m : Nat × Nat}
    (h : takeMatch? distances symbol bits = some (m, r)) : r.length ≤ bits.length := by
  unfold takeMatch? at h
  cases h₁ : takeExtra? lengthTable (symbol - 257) bits with
  | none => simp [h₁] at h
  | some p₁ =>
    cases h₂ : distances.decode? p₁.2 with
    | none => simp [h₁, h₂] at h
    | some p₂ =>
      cases h₃ : takeExtra? distanceTable p₂.1 p₂.2 with
      | none => simp [h₁, h₂, h₃] at h
      | some p₃ =>
        have := takeExtra?_length (n := p₁.1) (r := p₁.2) h₁
        have := decodeSymbol?_length (s := p₂.1) (r := p₂.2) h₂
        have := takeExtra?_length (n := p₃.1) (r := p₃.2) h₃
        simp [h₁, h₂, h₃] at h
        grind

/-- A step of a block: a byte, a copy of earlier output, or the end. -/
inductive Item where
  | literal (byte : UInt8)
  | copy (length distance : Nat)
  | stop

def takeItem? (literals distances : Code) (bits : Bits) : Option (Item × Bits) := do
  let (symbol, bits) ← literals.decode? bits
  if symbol < 256 then return (.literal (UInt8.ofNat symbol), bits)
  else if symbol = 256 then return (.stop, bits)
  else
    let (m, bits) ← takeMatch? distances symbol bits
    return (.copy m.1 m.2, bits)

theorem takeItem?_length {literals distances : Code} {bits rest : Bits} {item : Item}
    (h : takeItem? literals distances bits = some (item, rest)) : rest.length < bits.length := by
  unfold takeItem? at h
  cases h₁ : literals.decode? bits with
  | none => simp [h₁] at h
  | some p =>
    have hp := decodeSymbol?_length (s := p.1) (r := p.2) h₁
    simp only [h₁, Option.pure_def, Option.bind_eq_bind, Option.bind_some] at h
    split at h
    · grind
    · split at h
      · grind
      · cases h₂ : takeMatch? distances p.1 p.2 with
        | none => simp [h₂] at h
        | some q =>
          have := takeMatch?_length (m := q.1) (r := q.2) h₂
          simp [h₂] at h
          grind

/-- The literals and matches of a block up to its end symbol. -/
def inflateSymbols? (literals distances : Code) (bits : Bits) (out : Array UInt8) :
    Option (Array UInt8 × Bits) :=
  match h : takeItem? literals distances bits with
  | none => none
  | some (item, rest) =>
    have := takeItem?_length h
    match item with
    | .literal b => inflateSymbols? literals distances rest (out.push b)
    | .copy length distance =>
      match copyBack? distance length out with
      | some out => inflateSymbols? literals distances rest out
      | none => none
    | .stop => some (out, rest)
termination_by bits.length

/-- Code lengths, written with repeats, until `wanted` of them are there; newest first. -/
def takeLengths? (code : Code) (wanted : Nat) (lengths : List Nat) (bits : Bits) :
    Option (List Nat × Bits) :=
  if lengths.length = wanted then some (lengths, bits)
  else if wanted < lengths.length then none
  else
    match h : code.decode? bits with
    | none => none
    | some (symbol, rest) =>
      have := decodeSymbol?_length h
      if symbol < 16 then takeLengths? code wanted (symbol :: lengths) rest
      else
        let (least, extra) :=
          if symbol = 16 then (3, 2) else if symbol = 17 then (3, 3) else (11, 7)
        match h₁ : takeNumber? extra rest with
        | none => none
        | some (n, after) =>
          have := takeNumber?_length h₁
          if symbol = 16 then
            match lengths with
            | [] => none
            | last :: _ =>
              takeLengths? code wanted (List.replicate (least + n) last ++ lengths) after
          else takeLengths? code wanted (List.replicate (least + n) 0 ++ lengths) after
termination_by bits.length

def takeTriples? : Nat → Bits → Option (List Nat × Bits)
  | 0, bits => some ([], bits)
  | count + 1, bits => do
    let (n, rest) ← takeNumber? 3 bits
    let (others, after) ← takeTriples? count rest
    return (n :: others, after)

/-- The two codes in front of a block that brings its own. -/
def takeCodes? (bits : Bits) : Option (Code × Code × Bits) := do
  let (literalCount, bits) ← takeNumber? 5 bits
  let (distanceCount, bits) ← takeNumber? 5 bits
  let (lengthCount, bits) ← takeNumber? 4 bits
  let (triples, bits) ← takeTriples? (lengthCount + 4) bits
  let lengthOf (symbol : Nat) : Nat :=
    (((lengthOrder.zip triples).find? fun entry => entry.1 == symbol).map Prod.snd).getD 0
  let code := Code.ofLengths ((List.range 19).map lengthOf)
  if !code.isComplete false then none
  let (reversed, bits) ← takeLengths? code (literalCount + 257 + (distanceCount + 1)) [] bits
  let lengths := reversed.reverse
  let literals := Code.ofLengths (lengths.take (literalCount + 257))
  let distances := Code.ofLengths (lengths.drop (literalCount + 257))
  if !literals.isComplete true || !distances.isComplete true then none
  return (literals, distances, bits)

/-- A stored block, which starts at a whole byte; `consumed` bits stand before it. -/
def inflateStored? (total : Nat) (bits : Bits) (out : Array UInt8) :
    Option (Array UInt8 × Bits) := do
  let aligned := bits.drop ((8 - (total - bits.length) % 8) % 8)
  let (length, rest) ← takeNumber? 16 aligned
  let (check, rest) ← takeNumber? 16 rest
  if length + check ≠ pow2 16 - 1 then none
  let (bytes, rest) ← takeBytes? length rest
  return (out ++ bytes.toArray, rest)

def inflateBlock? (total kind : Nat) (bits : Bits) (out : Array UInt8) :
    Option (Array UInt8 × Bits) :=
  match kind with
  | 0 => inflateStored? total bits out
  | 1 => inflateSymbols? fixedLiterals fixedDistances bits out
  | 2 => do
    let (literals, distances, bits) ← takeCodes? bits
    inflateSymbols? literals distances bits out
  | _ => none

/-- Blocks up to the last one, at most `limit` of them. -/
def inflateBlocks? (total : Nat) : Nat → Bits → Array UInt8 → Option (Array UInt8 × Bits)
  | 0, _, _ => none
  | limit + 1, bits, out => do
    let (final, bits) ← takeNumber? 1 bits
    let (kind, bits) ← takeNumber? 2 bits
    let (out, bits) ← inflateBlock? total kind bits out
    if final = 1 then return (out, bits) else inflateBlocks? total limit bits out

/-- The output of a stream and the whole bytes after its last block. -/
def inflate? (bytes : Bytes) : Option (Bytes × Bytes) := do
  let bits := bitsOfBytes bytes
  let (out, rest) ← inflateBlocks? bits.length (bits.length + 1) bits #[]
  return (out.toList, bytes.drop (bytes.length - rest.length / 8))

end TrackerTraffic.Inflate
