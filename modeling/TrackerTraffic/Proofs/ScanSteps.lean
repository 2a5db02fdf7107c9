import TrackerTraffic.Path.Scanner
import TrackerTraffic.Proofs.PathReader

/-!
# Scans in step with readers

A scan keeps step with a reader of the text that is left at its position: it comes to the value that
the reader reads and stops where the reader stops, or it is refused there for the same reason.  On
the way its position stays in the text and never goes back, a rule is entered behind all places at
which it is still running, and a round of a loop takes at least one character.
-/

namespace TrackerTraffic.Path.Scan

/-! ### Sound logs -/

/-- The event took place inside a text of this length.  A rule that is running was entered further
in front, and a round of a loop has moved the position. -/
def Event.Sound (length : Nat) : Event → Prop
  | .moved position => position ≤ length
  | .entered call running => call.position ≤ length ∧
      ∀ earlier ∈ running, earlier.rule = call.rule → earlier.position < call.position
  | .repeated _ start stop => start < stop ∧ stop ≤ length

def Event.target? : Event → Option Nat
  | .moved position => some position
  | .entered _ _ => none
  | .repeated _ _ _ => none

/-- The position that the moves of a log lead to, from the start of the text. -/
def reached (log : List Event) : Nat := (log.findSome? Event.target?).getD 0

/-- The position lies in the text and is where the log leads, the log is sound, and no event took
place behind a later one or behind the position. -/
structure State.Sound (length : Nat) (s : State) : Prop where
  inside : s.position ≤ length
  tracked : s.position = reached s.log
  sound : ∀ event ∈ s.log, event.Sound length
  forward : (s.position :: s.log.map Event.position).Pairwise (· ≥ ·)

/-- The state is sound, the rest of the text is what is left at its position, and the bound is large
enough for the text. -/
structure Stands (context : Context) (rest : List Char) (s : State) : Prop
    extends s.Sound context.text.length where
  left : context.text.drop s.position = rest
  enough : 4 * (context.text.length + 1) ≤ context.bound

section

variable {α β : Type} {context : Context} {rest : List Char} {s : State}

theorem Stands.position_add (h : Stands context rest s) :
    s.position + rest.length = context.text.length := by
  have hinside := h.inside
  rw [← h.left, List.length_drop]
  omega

theorem Stands.bound_le (h : Stands context rest s) : 4 * (rest.length + 1) ≤ context.bound := by
  have hlength := h.position_add
  have henough := h.enough
  omega

theorem Stands.record (h : Stands context rest s) (event : Event)
    (hsound : event.Sound context.text.length) (hposition : event.position = s.position) :
    Stands context rest (s.record event) where
  inside := h.inside
  tracked := by
    cases event with
    | moved position => exact hposition.symm
    | entered call running => exact h.tracked
    | repeated loop start stop => exact h.tracked
  left := h.left
  enough := h.enough
  sound := List.forall_mem_cons.2 ⟨hsound, h.sound⟩
  forward := by
    have hforward := h.forward
    refine List.pairwise_cons.2 ⟨?_, by rwa [← hposition] at hforward⟩
    refine List.forall_mem_cons.2 ⟨Nat.le_of_eq hposition, ?_⟩
    exact (List.pairwise_cons.1 hforward).1

theorem Stands.advance {front : List Char} (h : Stands context (front ++ rest) s) :
    Stands context rest
      ⟨s.position + front.length, .moved (s.position + front.length) :: s.log⟩ := by
  have hlength := h.position_add
  rw [List.length_append] at hlength
  have hinside : s.position + front.length ≤ context.text.length := by omega
  refine ⟨⟨hinside, rfl, List.forall_mem_cons.2 ⟨hinside, h.sound⟩, ?_⟩, ?_, h.enough⟩
  · have hbefore := (List.pairwise_cons.1 h.forward)
    have hfurther : ∀ q ∈ s.log.map Event.position, s.position + front.length ≥ q :=
      fun q hq => Nat.le_trans (hbefore.1 q hq) (Nat.le_add_right _ _)
    refine List.pairwise_cons.2 ⟨?_, List.pairwise_cons.2 ⟨hfurther, hbefore.2⟩⟩
    exact List.forall_mem_cons.2 ⟨Nat.le_refl _, hfurther⟩
  · rw [← List.drop_drop, h.left, List.drop_left]

/-! ### Arriving and following -/

/-- The scan comes to the value and leaves the rest. -/
def Arrives (context : Context) (s : State) (scan : Scan α) (value : α) (rest : List Char) : Prop :=
  ∃ s', scan.outcome context s = some (.ok value, s') ∧ Stands context rest s'

/-- The scan comes to what the reader comes to, and stops where the reader does. -/
def Follows {limit : Nat} (context : Context) (s : State) (scan : Scan α)
    (reading : Reading α limit) : Prop :=
  match reading with
  | .ok taken => Arrives context s scan taken.value taken.rest
  | .error e => ∃ rest s', scan.outcome context s = some (.error (.refused e.reason), s') ∧
      Stands context rest s' ∧ rest.length = e.left

variable {limit limit' : Nat} {scan : Scan α} {f : α → Scan β}

theorem outcome_bind (scan : Scan α) (f : α → Scan β) (context : Context) (s : State) :
    (scan >>= f).outcome context s =
      (scan.outcome context s).bind fun answer =>
        match answer with
        | (.ok value, s') => (f value).outcome context s'
        | (.error failure, s') => some (.error failure, s') := by
  show Option.bind (scan.outcome context s) _ = _
  congr 1
  funext ⟨answer, s'⟩
  cases answer <;> rfl

theorem Arrives.next {value : α} {reading : Reading β limit} (h : Arrives context s scan value rest)
    (hnext : ∀ s', Stands context rest s' → Follows context s' (f value) reading) :
    Follows context s (scan >>= f) reading := by
  obtain ⟨s', houtcome, hstands⟩ := h
  have hbind : (scan >>= f).outcome context s = (f value).outcome context s' := by
    rw [outcome_bind, houtcome, Option.bind_some]
  have hfollows := hnext s' hstands
  cases reading with
  | ok taken =>
    obtain ⟨s'', hvalue, hrest⟩ := hfollows
    exact ⟨s'', hbind.trans hvalue, hrest⟩
  | error e =>
    obtain ⟨behind, s'', hrefused, hrest⟩ := hfollows
    exact ⟨behind, s'', hbind.trans hrefused, hrest⟩

theorem Follows.stop {e : Stuck} (h : Follows context s scan (.error e : Reading α limit)) :
    Follows context s (scan >>= f) (.error e : Reading β limit') := by
  obtain ⟨behind, s', hrefused, hstands, hlength⟩ := h
  refine ⟨behind, s', ?_, hstands, hlength⟩
  rw [outcome_bind, hrefused, Option.bind_some]

theorem Follows.bind {reading : Reading α limit} {read : Taken α limit → Reading β limit'}
    (h : Follows context s scan reading)
    (hnext : ∀ taken s', Stands context taken.rest s' →
      Follows context s' (f taken.value) (read taken)) :
    Follows context s (scan >>= f) (reading >>= read) := by
  cases reading with
  | ok taken => exact Arrives.next h (hnext taken)
  | error e => exact h.stop

/-- The reading may be counted against another limit. -/
theorem Follows.widen {reading : Reading α limit} (h : Follows context s scan reading)
    (hlimit : ∀ taken : Taken α limit, taken.rest.length < limit') :
    Follows context s scan
      (reading >>= fun taken => .ok ⟨taken.value, taken.rest, hlimit taken⟩ : Reading α limit') := by
  cases reading <;> exact h

theorem follows_pure (h : Stands context rest s) (value : α) (shorter : rest.length < limit) :
    Follows context s (pure value) (.ok ⟨value, rest, shorter⟩ : Reading α limit) :=
  ⟨s, rfl, h⟩

theorem follows_refuse (h : Stands context rest s) (reason : String) :
    Follows context s (refuse reason : Scan α) (stuck rest reason : Reading α limit) :=
  ⟨rest, s, rfl, h, rfl⟩

theorem Arrives.bind {value : α} {value' : β} {behind : List Char}
    (h : Arrives context s scan value rest)
    (hnext : ∀ s', Stands context rest s' → Arrives context s' (f value) value' behind) :
    Arrives context s (scan >>= f) value' behind := by
  have hreading : Follows context s (scan >>= f)
      (.ok ⟨value', behind, Nat.lt_succ_self _⟩ : Reading β (behind.length + 1)) := h.next hnext
  exact hreading

theorem arrives_pure (h : Stands context rest s) (value : α) :
    Arrives context s (pure value) value rest :=
  ⟨s, rfl, h⟩

/-! ### Moving and looking -/

theorem arrives_position (h : Stands context rest s) :
    Arrives context s position (context.text.length - rest.length) rest := by
  have hposition : context.text.length - rest.length = s.position := by
    have hlength := h.position_add
    omega
  rw [hposition]
  exact ⟨s, rfl, h⟩

theorem arrives_peekAt (h : Stands context rest s) (offset : Nat) :
    Arrives context s (peekAt offset) rest[offset]? rest := by
  have hlook : context.text[s.position + offset]? = rest[offset]? := by rw [← h.left, List.getElem?_drop]
  rw [← hlook]
  exact ⟨s, rfl, h⟩

theorem arrives_peek (h : Stands context rest s) : Arrives context s peek rest.head? rest := by
  rw [List.head?_eq_getElem?]
  exact arrives_peekAt h 0

theorem arrives_advance (front : List Char) (h : Stands context (front ++ rest) s) :
    Arrives context s (advance front.length) () rest :=
  ⟨_, rfl, h.advance⟩

theorem arrives_advance_one {c : Char} (h : Stands context (c :: rest) s) :
    Arrives context s (advance 1) () rest :=
  arrives_advance [c] h

theorem Stands.suffix (h : Stands context rest s) : rest <:+ context.text := by
  rw [← h.left]
  exact List.drop_suffix _ _

theorem outcome_piece {start stop : Nat} (h : start ≤ stop ∧ stop ≤ context.text.length) (s : State) :
    (piece start stop).outcome context s =
      some (.ok ((context.text.drop start).take (stop - start)), s) := by
  show (if start ≤ stop ∧ stop ≤ context.text.length then _ else throw _ : Scan (List Char)).outcome context s = _
  rw [if_pos h]
  rfl

/-- The piece of the text between two places, wherever the scan stands. -/
theorem arrives_piece {taken behind rest' : List Char} {s' : State} (hsplit : taken ++ behind = rest)
    (h : Stands context rest s) (h' : Stands context rest' s') :
    Arrives context s' (piece (context.text.length - rest.length) (context.text.length - behind.length)) taken rest' := by
  obtain ⟨front, htext⟩ := h.suffix
  have hlength : taken.length + behind.length = rest.length := by
    rw [← hsplit, List.length_append]
  have hstart : context.text.length - rest.length = front.length := by
    rw [← htext, List.length_append, Nat.add_sub_cancel]
  have hstop : context.text.length - behind.length = front.length + taken.length := by
    rw [← htext, List.length_append]
    omega
  have hrange : front.length ≤ front.length + taken.length ∧
      front.length + taken.length ≤ context.text.length := by
    rw [← htext, List.length_append]
    omega
  refine ⟨s', ?_, h'⟩
  rw [hstart, hstop, outcome_piece hrange, ← htext, List.drop_left, Nat.add_sub_cancel_left,
    ← hsplit, List.take_left]

/-- The piece from an earlier place to where the scan stands. -/
theorem arrives_piece_here {taken behind : List Char} {s' : State} (hsplit : taken ++ behind = rest)
    (h : Stands context rest s) (h' : Stands context behind s') :
    Arrives context s' (position >>= piece (context.text.length - rest.length)) taken behind :=
  (arrives_position h').bind fun _ h'' => arrives_piece hsplit h h''

/-! ### Single characters and words -/

theorem head?_ne_some {c : Char} (h : ∀ behind, rest = c :: behind → False) :
    rest.head? ≠ some c := by
  intro hhead
  obtain ⟨behind, hrest⟩ := List.head?_eq_some_iff.1 hhead
  exact h behind hrest

theorem arrives_eat {c : Char} (h : Stands context (c :: rest) s) :
    Arrives context s (eat c) true rest := by
  refine (arrives_peek h).bind fun s' hs' => ?_
  rw [if_pos List.head?_cons]
  exact (arrives_advance_one hs').bind fun _ h' => arrives_pure h' true

theorem arrives_eat_none {c : Char} (h : Stands context rest s) (hne : rest.head? ≠ some c) :
    Arrives context s (eat c) false rest := by
  refine (arrives_peek h).bind fun s' hs' => ?_
  rw [if_neg hne]
  exact arrives_pure hs' false

theorem arrives_read (h : Stands context rest s) :
    Arrives context s (read : Scan Context) context rest :=
  ⟨s, rfl, h⟩

theorem arrives_eatWord (word : List Char) (h : Stands context (word ++ rest) s) :
    Arrives context s (eatWord word) true rest := by
  have hlength := h.position_add
  rw [List.length_append] at hlength
  have hstop : context.text.length - (word ++ rest).length + word.length = context.text.length - rest.length := by
    rw [List.length_append]
    omega
  refine (arrives_position h).bind fun s₁ h₁ => (arrives_read h₁).bind fun s₂ h₂ => ?_
  rw [hstop, if_pos (Nat.sub_le _ _)]
  refine (arrives_piece rfl h h₂).bind fun s₃ h₃ => ?_
  rw [if_pos rfl]
  exact (arrives_advance word h₃).bind fun _ h₄ => arrives_pure h₄ true

theorem arrives_eatWord_none {word : List Char} (h : Stands context rest s) (hne : ¬ word <+: rest) :
    Arrives context s (eatWord word) false rest := by
  have hlength := h.position_add
  refine (arrives_position h).bind fun s₁ h₁ => (arrives_read h₁).bind fun s₂ h₂ => ?_
  split
  · rename_i hfits
    have hword : word.length ≤ rest.length := by omega
    have hsplit : rest.take word.length ++ rest.drop word.length = rest :=
      List.take_append_drop _ _
    have hstop : context.text.length - rest.length + word.length =
        context.text.length - (rest.drop word.length).length := by
      rw [List.length_drop]
      omega
    rw [hstop]
    refine (arrives_piece hsplit h h₂).bind fun s₃ h₃ => ?_
    have hother : rest.take word.length ≠ word := by
      intro heq
      have hstarts : rest.take word.length <+: rest := List.take_prefix _ _
      rw [heq] at hstarts
      exact hne hstarts
    rw [if_neg hother]
    exact arrives_pure h₃ false
  · exact arrives_pure h₂ false

theorem arrives_demand {c : Char} (h : Stands context (c :: rest) s) :
    Arrives context s (demand c) () rest :=
  (arrives_eat h).bind fun _ h' => arrives_pure h' ()

theorem follows_demand (h : Stands context rest s) (c : Char) :
    Follows context s (demand c) (expect c rest) := by
  cases rest with
  | nil =>
    refine (arrives_eat_none (c := c) h (by simp)).next fun s' h' => ?_
    exact follows_refuse h' _
  | cons d rest =>
    rw [expect]
    split
    · rename_i hd
      subst hd
      exact arrives_demand h
    · rename_i hd
      refine (arrives_eat_none (c := c) h (by simpa using hd)).next fun s' h' => ?_
      exact follows_refuse h' _

/-! ### Runs of characters -/

theorem arrives_skipRun (p : Char → Bool) {n : Nat} (h : Stands context rest s)
    (hn : rest.length < n) : Arrives context s (skipRun p n) () (rest.dropWhile p) := by
  induction n generalizing rest s with
  | zero => exact absurd hn (Nat.not_lt_zero _)
  | succ n ih =>
    rw [skipRun]
    refine (arrives_peek h).bind fun s' h' => ?_
    cases rest with
    | nil => exact arrives_pure h' ()
    | cons c rest =>
      dsimp only [List.head?_cons]
      rw [List.dropWhile_cons]
      split
      · refine (arrives_advance_one h').bind fun s'' h'' => ih h'' ?_
        exact Nat.lt_of_succ_lt_succ hn
      · exact arrives_pure h' ()

theorem arrives_bound (h : Stands context rest s) :
    Arrives context s bound context.bound rest :=
  ⟨s, rfl, h⟩

theorem arrives_skipWhile (p : Char → Bool) (h : Stands context rest s) :
    Arrives context s (skipWhile p) () (rest.dropWhile p) := by
  have hbound := h.bound_le
  exact (arrives_bound h).bind fun s' h' => arrives_skipRun p h' (by omega)

theorem arrives_skipBlanks (h : Stands context rest s) :
    Arrives context s skipBlanks () (skipBlank rest) :=
  arrives_skipWhile Text.isBlank h

theorem arrives_run (p : Char → Bool) (h : Stands context rest s) :
    Arrives context s (run p) (takeRun p rest).1 (takeRun p rest).2 := by
  refine (arrives_position h).bind fun s₁ h₁ => (arrives_skipWhile p h₁).bind fun s₂ h₂ => ?_
  exact arrives_piece_here List.takeWhile_append_dropWhile h h₂

/-- Blanks and a sign that has to stand behind them. -/
theorem follows_closing {limit : Nat} (h : Stands context rest s) (c : Char) {f : Unit → Scan β}
    {read : Taken Unit rest.length → Reading β limit}
    (hnext : ∀ taken s', Stands context taken.rest s' → Follows context s' (f ()) (read taken)) :
    Follows context s (skipBlanks >>= fun _ => demand c >>= f) (expectNext c rest >>= read) := by
  have hread : expectNext c rest >>= read = expect c (skipBlank rest) >>= fun taken =>
      read ⟨(), taken.rest, Nat.lt_of_lt_of_le taken.shorter (skipBlank_length rest)⟩ := by
    rw [expectNext]
    cases expect c (skipBlank rest) <;> rfl
  rw [hread]
  refine (arrives_skipBlanks h).next fun s' h' => (follows_demand h' c).bind fun taken s'' h'' => ?_
  exact hnext ⟨(), taken.rest, _⟩ s'' h''

end

end TrackerTraffic.Path.Scan
