import TrackedRows.Change

namespace TrackedRows

namespace Text

variable {b m n : Nat} {c d : Char} {s t x y : List Char}

/-- A mark that neither of two texts contains shows where they end. -/
theorem append_cons_inj (hs : c ∉ s) (ht : c ∉ t) (h : s ++ c :: x = t ++ c :: y) : s = t ∧ x = y := by
  induction s generalizing t with
  | nil =>
      cases t with
      | nil => exact ⟨rfl, (List.cons.inj h).2⟩
      | cons e t => simp [(List.cons.inj h).1] at ht
  | cons d s ih =>
      cases t with
      | nil => simp [(List.cons.inj h).1] at hs
      | cons e t =>
          simp only [List.mem_cons, not_or] at hs ht
          simp only [List.cons_append, List.cons.injEq] at h
          obtain ⟨rfl, hxy⟩ := ih hs.2 ht.2 h.2
          exact ⟨by rw [h.1], hxy⟩

section Numerals

theorem exists_digitChar_of_mem (hb : 1 < b) (hc : c ∈ Nat.toDigits b n) : ∃ d, Nat.digitChar d = c := by
  induction n using Nat.strongRecOn with
  | ind n ih =>
      rw [Nat.toDigits_eq_if hb] at hc
      split at hc
      · exact ⟨n, (List.mem_singleton.1 hc).symm⟩
      · rcases List.mem_append.1 hc with hc | hc
        · exact ih (n / b) (Nat.div_lt_self (by omega) hb) hc
        · exact ⟨n % b, (List.mem_singleton.1 hc).symm⟩

theorem digitChar_inj (hm : m < 16) (hn : n < 16) (h : m.digitChar = n.digitChar) : m = n := by
  have hall : ∀ m < 16, ∀ n < 16, m.digitChar = n.digitChar → m = n := by decide
  exact hall m hm n hn h

theorem toDigits_inj (hb : 1 < b) (hb' : b ≤ 16) (h : Nat.toDigits b m = Nat.toDigits b n) : m = n := by
  induction m using Nat.strongRecOn generalizing n with
  | ind m ih =>
      rw [Nat.toDigits_eq_if hb, Nat.toDigits_eq_if (n := n) hb] at h
      split at h
      · split at h
        · exact digitChar_inj (by omega) (by omega) (List.cons.inj h).1
        · cases Nat.toDigits_ne_nil (List.append_singleton_inj.1 (h.symm.trans (List.nil_append _).symm)).1
      · split at h
        · cases Nat.toDigits_ne_nil (List.append_singleton_inj.1 (h.trans (List.nil_append _).symm)).1
        · have hlt : ∀ k, k % b < 16 := fun k => Nat.lt_of_lt_of_le (Nat.mod_lt k (by omega)) hb'
          obtain ⟨hdiv, hmod⟩ := List.append_singleton_inj.1 h
          rw [← Nat.div_add_mod m b, ← Nat.div_add_mod n b, ih _ (Nat.div_lt_self (by omega) hb) hdiv,
            digitChar_inj (hlt m) (hlt n) hmod]

theorem not_mem_natural (hc : c.isDigit = false) : c ∉ natural n := by
  intro h
  cases hc.symm.trans (Nat.isDigit_of_mem_toDigits (by decide) (by decide) h)

theorem natural_inj (h : natural m = natural n) : m = n := toDigits_inj (by decide) (by decide) h

theorem not_mem_integer {i : Int} (hc : c.isDigit = false) (hminus : c ≠ '-') : c ∉ integer i := by
  cases i with
  | ofNat n => exact not_mem_natural hc
  | negSucc n => simp [integer, hminus, not_mem_natural hc]

theorem integer_inj {i j : Int} (h : integer i = integer j) : i = j := by
  have hminus : ∀ m n, natural m ≠ '-' :: natural n := fun m n h =>
    not_mem_natural (n := m) rfl (h ▸ List.mem_cons_self)
  cases i with
  | ofNat m =>
      cases j with
      | ofNat n => rw [natural_inj h]
      | negSucc n => exact absurd h (hminus m (n + 1))
  | negSucc m =>
      cases j with
      | ofNat n => exact absurd h.symm (hminus n (m + 1))
      | negSucc n => rw [Nat.succ.inj (natural_inj (List.cons.inj h).2)]

end Numerals

/-- The characters with an escape of one letter, and these letters. -/
def shorthand : List (Char × Char) :=
  [('\x00', '0'), ('\t', 't'), ('\n', 'n'), ('\r', 'r'), ('"', '"'), ('\\', '\\')]

theorem shorthand_inj {letter : Char} (hc : (c, letter) ∈ shorthand) (hd : (d, letter) ∈ shorthand) :
    c = d := by
  have hall : ∀ p ∈ shorthand, ∀ q ∈ shorthand, p.2 = q.2 → p.1 = q.1 := by decide
  exact hall _ hc _ hd rfl

theorem shorthand_ne {letter : Char} (hc : (c, letter) ∈ shorthand) : letter ≠ 'u' := by
  have hall : ∀ p ∈ shorthand, p.2 ≠ 'u' := by decide
  exact hall _ hc

/-- The three ways to write a character between quotes. -/
inductive Escaped (c : Char) : List Char → Prop
  | short {letter : Char} (h : (c, letter) ∈ shorthand) : Escaped c ['\\', letter]
  | hex : Escaped c (hexEscape c)
  | plain (hquote : c ≠ '"') (hslash : c ≠ '\\') : Escaped c [c]

theorem escaped_escape (c : Char) : Escaped c (escape c) := by
  unfold escape
  split
  case h_7 _ _ _ _ hquote hslash =>
    split
    · exact .hex
    · exact .plain hquote hslash
  all_goals exact .short (by decide)

theorem Escaped.ne_quote {l : List Char} (h : Escaped c l) : l ++ x ≠ '"' :: y := by
  cases h with
  | short | hex => simp [hexEscape]
  | plain hquote _ => simp [hquote]

/-- What stands after a backslash tells a short escape from a long one, and the brace ends the latter. -/
theorem Escaped.append_inj {l l' : List Char} (hc : Escaped c l) (hd : Escaped d l')
    (h : l ++ x = l' ++ y) : c = d ∧ x = y := by
  cases hc with
  | short hc =>
      cases hd with
      | short hd =>
          simp only [List.cons_append, List.nil_append, List.cons.injEq, true_and] at h
          exact ⟨shorthand_inj hc (h.1 ▸ hd), h.2⟩
      | hex => simp [hexEscape, shorthand_ne hc] at h
      | plain _ hslash => simp [hslash.symm] at h
  | hex =>
      cases hd with
      | short hd => simp [hexEscape, (shorthand_ne hd).symm] at h
      | hex =>
          have hbrace : ∀ c : Char, '\x7d' ∉ Nat.toDigits 16 c.toNat := fun c hmem => by
            obtain ⟨d, hd⟩ := exists_digitChar_of_mem (by decide) hmem
            exact Nat.digitChar_ne _ (by decide) hd
          simp only [hexEscape, List.append_assoc, List.append_cancel_left_eq, List.singleton_append] at h
          obtain ⟨hdigits, hxy⟩ := append_cons_inj (hbrace c) (hbrace d) h
          exact ⟨Char.toNat_inj.1 (toDigits_inj (by decide) (by decide) hdigits), hxy⟩
      | plain _ hslash => simp [hexEscape, hslash.symm] at h
  | plain _ hslash =>
      cases hd with
      | short | hex => simp [hexEscape, hslash] at h
      | plain => simpa using h

/-- The first quote that is not part of an escape ends a quoted text. -/
theorem quote_append_inj (h : quote s ++ x = quote t ++ y) : s = t ∧ x = y := by
  have hbody : s.flatMap escape ++ '"' :: x = t.flatMap escape ++ '"' :: y := by simpa [quote] using h
  clear h
  induction s generalizing t with
  | nil =>
      cases t with
      | nil => exact ⟨rfl, (List.cons.inj hbody).2⟩
      | cons d t =>
          rw [List.flatMap_cons, List.append_assoc] at hbody
          exact absurd hbody.symm (escaped_escape d).ne_quote
  | cons c s ih =>
      cases t with
      | nil =>
          rw [List.flatMap_cons, List.append_assoc] at hbody
          exact absurd hbody (escaped_escape c).ne_quote
      | cons d t =>
          simp only [List.flatMap_cons, List.append_assoc] at hbody
          obtain ⟨rfl, hrest⟩ := (escaped_escape c).append_inj (escaped_escape d) hbody
          obtain ⟨rfl, hxy⟩ := ih hrest
          exact ⟨rfl, hxy⟩

end Text

/-- The text of a key shows where it ends, whatever follows it. -/
theorem Key.label_append_inj {a b : Key} {x y : String} (h : a.label ++ x = b.label ++ y) :
    a = b ∧ x = y := by
  have hlist := congrArg String.toList h
  cases a with
  | number m =>
      cases b with
      | number n =>
          have hparen : ∀ i, ')' ∉ Text.integer i := fun i => Text.not_mem_integer rfl (by decide)
          have hbody : Text.integer m.toInt ++ ')' :: x.toList = Text.integer n.toInt ++ ')' :: y.toList := by
            simpa [label] using hlist
          obtain ⟨hdigits, hxy⟩ := Text.append_cons_inj (hparen _) (hparen _) hbody
          rw [Int64.toInt_inj.1 (Text.integer_inj hdigits)]
          exact ⟨rfl, String.toList_inj.1 hxy⟩
      | text t => simp [label] at hlist
  | text s =>
      cases b with
      | number n => simp [label] at hlist
      | text t =>
          have hbody : Text.quote s.toList ++ ')' :: x.toList = Text.quote t.toList ++ ')' :: y.toList := by
            simpa [label, Text.quoted] using hlist
          obtain ⟨hst, hxy⟩ := Text.quote_append_inj hbody
          rw [String.toList_inj.1 hst]
          exact ⟨rfl, String.toList_inj.1 (List.cons.inj hxy).2⟩

theorem Stamp.render_append_inj {i j : Stamp} {x y : String}
    (h : i.render ++ (" " ++ x) = j.render ++ (" " ++ y)) : i = j ∧ x = y := by
  have hspace : ∀ n, ' ' ∉ Text.natural n := fun _ => Text.not_mem_natural rfl
  have hlist : Text.natural i.toNat ++ ' ' :: x.toList = Text.natural j.toNat ++ ' ' :: y.toList := by
    simpa [render] using congrArg String.toList h
  obtain ⟨hdigits, hxy⟩ := Text.append_cons_inj (hspace _) (hspace _) hlist
  exact ⟨UInt64.toNat_inj.1 (Text.natural_inj hdigits), String.toList_inj.1 hxy⟩

theorem Stamp.render_inj {i j : Stamp} (h : i.render = j.render) : i = j :=
  UInt64.toNat_inj.1 (Text.natural_inj (String.ofList_inj.1 h))

theorem Fault.message_conflict (row : String) (i j : Stamp) : (conflict row i j).message =
    "concurrency conflict on row " ++ (row ++ (": baseline read id " ++
      (i.render ++ (" " ++ ("is newer than incoming read id " ++ j.render))))) := by
  have hmessage : (conflict row i j).message = "concurrency conflict on row " ++ row ++
      ": baseline read id " ++ i.render ++ " is newer than incoming read id " ++ j.render := rfl
  have hwords : " is newer than incoming read id " = " " ++ "is newer than incoming read id " :=
    String.toList_inj.1 (by simp)
  rw [hmessage, hwords]
  simp only [String.append_assoc]

/-- The text of a key tells its row from all others, and so do the messages it stands in. -/
theorem Key.label_tells_row (a b : Key) :
    (a.label = b.label ↔ a = b) ∧
      ((Fault.missingRow a.label).message = (Fault.missingRow b.label).message ↔ a = b) ∧
      ((Fault.existingRow a.label).message = (Fault.existingRow b.label).message ↔ a = b) ∧
      ∀ i j i' j', (Fault.conflict a.label i j).message = (Fault.conflict b.label i' j').message ↔
        a = b ∧ i = i' ∧ j = j' := by
  have hlabel : a.label = b.label ↔ a = b := by
    constructor
    · intro h
      exact (label_append_inj (x := "") (y := "") (congrArg (· ++ "") h)).1
    · exact congrArg label
  refine ⟨hlabel, (String.append_right_inj _).trans hlabel, (String.append_right_inj _).trans hlabel,
    fun i j i' j' => ⟨fun h => ?_, ?_⟩⟩
  · rw [Fault.message_conflict, Fault.message_conflict, String.append_right_inj] at h
    obtain ⟨rfl, hstamps⟩ := label_append_inj h
    obtain ⟨rfl, hrest⟩ := Stamp.render_append_inj ((String.append_right_inj _).1 hstamps)
    exact ⟨rfl, rfl, Stamp.render_inj ((String.append_right_inj _).1 hrest)⟩
  · rintro ⟨rfl, rfl, rfl⟩
    rfl

/-- A control character is told from the text that its escape looks like. -/
example : (Key.text "\x01").label = "Text(\"\\u\x7b1\x7d\")" ∧
    (Key.text "\\u\x7b1\x7d").label = "Text(\"\\\\u\x7b1\x7d\")" := by decide +kernel

end TrackedRows
