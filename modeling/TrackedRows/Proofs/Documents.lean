import TrackedRows.Form.Session
import TrackedRows.Proofs.Spelling

namespace TrackedRows

namespace Json

/-- A word stands as a text, or as the name of the only member of an object, which is null. -/
def SpellsWord (j : Json) (s : String) : Prop := j = .text s ∨ j = .object [(s, .null)]

theorem word?_eq_some_iff {j : Json} {s : String} : j.word? = some s ↔ j.SpellsWord s := by
  unfold word? SpellsWord
  split
  · simp
  · simp
  · next htext hobject =>
      refine iff_of_false (by simp) ?_
      rintro (rfl | rfl)
      · exact htext s rfl
      · exact hobject s rfl

theorem bind_word?_iff {α : Type} {name : α → String} {ofName? : String → Option α} {j : Json} {a : α}
    (hname : ∀ {s a}, ofName? s = some a ↔ name a = s) :
    j.word?.bind ofName? = some a ↔ j.SpellsWord (name a) := by
  rw [Option.bind_eq_some_iff]
  constructor
  · rintro ⟨s, hs, ha⟩
    rw [hname.1 ha]
    exact word?_eq_some_iff.1 hs
  · exact fun h => ⟨name a, word?_eq_some_iff.2 h, hname.2 rfl⟩

end Json

namespace Form

section Leaves

instance : Spelling Bool where
  Spells j b := j = .boolean b
  Faulty
    | .boolean _ => False
    | _ => True

instance : Spelling String where
  Spells j s := j = .text s
  Faulty
    | .text _ => False
    | _ => True

/-- Only what a word of 64 bits holds can be written. -/
instance : Spelling Nat where
  Spells j n := j = .integer n ∧ n < UInt64.size
  Faulty
    | .integer n => n < 0 ∨ UInt64.size ≤ n
    | _ => True

instance : Spelling UInt64 where
  Spells j n := j = .integer n.toNat
  Faulty
    | .integer n => n < 0 ∨ UInt64.size ≤ n
    | _ => True

instance : Spelling Key where
  Spells j
    | .number n => j = .integer n.toInt
    | .text s => j = .text s
  Faulty
    | .integer n => n < Int64.minValue.toInt ∨ Int64.maxValue.toInt < n
    | .text _ => False
    | _ => True

instance : Spelling Columns where
  Spells j columns := j = encode columns
  Faulty
    | .object _ => False
    | _ => True

instance : Spelling Pending where
  Spells j p := j.SpellsWord p.name
  Faulty j := ∀ p : Pending, ¬ j.SpellsWord p.name

instance : Spelling Stage where
  Spells j s := j.SpellsWord s.name
  Faulty j := ∀ s : Stage, ¬ j.SpellsWord s.name

instance {α : Type} [Spelling α] : Spelling (List α) where
  Spells j l := ∃ items, j = .list items ∧ List.Forall₂ Spells items l
  Faulty
    | .list items => ∃ j ∈ items, Faulty α j
    | _ => True

variable {j : Json}

theorem faithful_bool : Faithful Bool where
  decode_of_spells h := by
    rw [h]
    rfl
  decode_of_faulty {j} h := by
    cases j with
    | boolean b => exact h.elim
    | _ => rfl

theorem faithful_string : Faithful String where
  decode_of_spells h := by
    rw [h]
    rfl
  decode_of_faulty {j} h := by
    cases j with
    | text s => exact h.elim
    | _ => rfl

theorem decode_nat_iff {n : Nat} : decode j = some n ↔ j = .integer n ∧ n < UInt64.size := by
  cases j with
  | integer m =>
      simp only [decode, Option.ite_none_right_eq_some, Option.some.injEq, Json.integer.injEq]
      omega
  | _ => simp [decode]

theorem faithful_nat : Faithful Nat where
  decode_of_spells h := decode_nat_iff.2 h
  decode_of_faulty {j} h := by
    cases j with
    | integer n => exact if_neg fun ⟨hle, hlt⟩ => h.elim (Int.not_lt.2 hle) (Int.not_le.2 hlt)
    | _ => rfl

theorem faithful_uint64 : Faithful UInt64 where
  decode_of_spells {j n} h := by
    have hnat : decode j = some n.toNat := decode_nat_iff.2 ⟨h, n.toNat_lt_size⟩
    exact (congrArg (Option.map UInt64.ofNat) hnat).trans (congrArg some UInt64.ofNat_toNat)
  decode_of_faulty h := congrArg (Option.map UInt64.ofNat) (faithful_nat.decode_of_faulty h)

theorem faithful_key : Faithful Key where
  decode_of_spells {j k} h := by
    cases k with
    | number n =>
        obtain rfl : j = .integer n.toInt := h
        have hread : decode (.integer n.toInt) = some (Key.number (.ofInt n.toInt)) :=
          if_pos ⟨n.minValue_le_toInt, n.toInt_le⟩
        rw [hread, Int64.ofInt_toInt]
    | text s =>
        obtain rfl : j = .text s := h
        rfl
  decode_of_faulty {j} h := by
    cases j with
    | integer n => exact if_neg fun ⟨hle, hlt⟩ => h.elim (Int.not_lt.2 hle) (Int.not_lt.2 hlt)
    | text s => exact h.elim
    | _ => rfl

theorem faithful_columns : Faithful Columns where
  decode_of_spells {j columns} h := by
    have hread : (columns.items.map fun m => (m.1, encode m.2)).mapM
        (fun m => (decode m.2).map (m.1, ·)) = some columns.items := by
      rw [mapM_eq_some_iff, List.forall₂_map_left_iff, List.forall₂_same]
      intro m _
      exact congrArg (Option.map (m.1, ·)) (Json.value?_val m.2)
    rw [h]
    exact (congrArg (Option.map Keyed.ofList) hread).trans (congrArg some columns.ofList_items)
  decode_of_faulty {j} h := by
    cases j with
    | object ms => exact h.elim
    | _ => rfl

theorem faithful_pending : Faithful Pending where
  decode_of_spells h := (Json.bind_word?_iff Pending.ofName?_eq_some_iff).2 h
  decode_of_faulty h := Option.eq_none_iff_forall_ne_some.2 fun p hp =>
    h p ((Json.bind_word?_iff Pending.ofName?_eq_some_iff).1 hp)

theorem faithful_stage : Faithful Stage where
  decode_of_spells h := (Json.bind_word?_iff Stage.ofName?_eq_some_iff).2 h
  decode_of_faulty h := Option.eq_none_iff_forall_ne_some.2 fun s hs =>
    h s ((Json.bind_word?_iff Stage.ofName?_eq_some_iff).1 hs)

theorem faithful_list {α : Type} [Form α] [Spelling α] (hα : Faithful α) : Faithful (List α) where
  decode_of_spells {j l} h := by
    obtain ⟨items, rfl, hitems⟩ := h
    exact mapM_eq_some_iff.2 (hitems.imp fun _ _ => hα.decode_of_spells)
  decode_of_faulty {j} h := by
    cases j with
    | list items =>
        obtain ⟨part, hpart, hfaulty⟩ := h
        exact mapM_eq_none hpart (hα.decode_of_faulty hfaulty)
    | _ => rfl

end Leaves

section Records

theorem reads_optional_iff {α β : Type} [Form β] [Spelling β] {name : String} {value : α → β} {d : β}
    {v : α} {o : Option Json} :
    (⟨name, value, some d⟩ : Field α).Reads v o ↔ orDefault d o = some (value v) := by
  cases o <;> exact Iff.rfl

instance : Record Row where
  fields := [⟨"key", Row.key, none⟩, ⟨"columns", Row.columns, none⟩]
  nodup := by decide
  encode_eq _ := rfl
  decode_iff {j row} := by
    refine Option.bind_eq_some_iff.trans (exists_congr fun given => and_congr_right fun _ => ?_)
    simp only [Field.forall₂_reads_required_iff, List.forall₂_nil_left_iff]
    constructor
    · intro h
      split at h
      · simp only [Option.bind_eq_bind, Option.bind_eq_some_iff, Option.pure_def, Option.some.injEq] at h
        obtain ⟨key, hkey, columns, hcolumns, rfl⟩ := h
        exact ⟨_, _, hkey, ⟨_, _, hcolumns, rfl, rfl⟩, rfl⟩
      · cases h
    · rintro ⟨_, _, hkey, ⟨_, _, hcolumns, rfl, rfl⟩, rfl⟩
      simp [hkey, hcolumns]

instance : Record Change where
  fields := [⟨"record", Change.row, none⟩, ⟨"readId", Change.readId, none⟩,
    ⟨"writeId", Change.writeId, none⟩, ⟨"isWritten", Change.isStored, none⟩,
    ⟨"rowAction", Change.pending, none⟩]
  nodup := by decide
  encode_eq _ := rfl
  decode_iff {j c} := by
    refine Option.bind_eq_some_iff.trans (exists_congr fun given => and_congr_right fun _ => ?_)
    simp only [Field.forall₂_reads_required_iff, List.forall₂_nil_left_iff]
    constructor
    · intro h
      split at h
      · simp only [Option.bind_eq_bind, Option.bind_eq_some_iff, Option.pure_def, Option.some.injEq] at h
        obtain ⟨row, hrow, readId, hread, writeId, hwrite, isStored, hstored, pending, hpending, rfl⟩ := h
        exact ⟨_, _, hrow, ⟨_, _, hread, ⟨_, _, hwrite, ⟨_, _, hstored, ⟨_, _, hpending, rfl, rfl⟩,
          rfl⟩, rfl⟩, rfl⟩, rfl⟩
      · cases h
    · rintro ⟨_, _, hrow, ⟨_, _, hread, ⟨_, _, hwrite, ⟨_, _, hstored, ⟨_, _, hpending, rfl, rfl⟩,
        rfl⟩, rfl⟩, rfl⟩, rfl⟩
      simp [hrow, hread, hwrite, hstored, hpending]

instance : Record Settings where
  fields := [⟨"name", Settings.name, some Settings.default.name⟩,
    ⟨"autoFlush", Settings.autoFlush, some Settings.default.autoFlush⟩]
  nodup := by decide
  encode_eq _ := rfl
  decode_iff {j settings} := by
    refine Option.bind_eq_some_iff.trans (exists_congr fun given => and_congr_right fun _ => ?_)
    simp only [List.forall₂_cons_left_iff, List.forall₂_nil_left_iff]
    constructor
    · intro h
      split at h
      · simp only [Option.bind_eq_bind, Option.bind_eq_some_iff, Option.pure_def, Option.some.injEq] at h
        obtain ⟨name, hname, autoFlush, hflush, rfl⟩ := h
        exact ⟨_, _, reads_optional_iff.2 hname, ⟨_, _, reads_optional_iff.2 hflush, rfl, rfl⟩, rfl⟩
      · cases h
    · rintro ⟨_, _, hname, ⟨_, _, hflush, rfl, rfl⟩, rfl⟩
      simp [reads_optional_iff.1 hname, reads_optional_iff.1 hflush]

instance : Record FlushReport where
  fields := [⟨"persisted", FlushReport.persisted, none⟩, ⟨"marked", FlushReport.marked, none⟩]
  nodup := by decide
  encode_eq _ := rfl
  decode_iff {j report} := by
    refine Option.bind_eq_some_iff.trans (exists_congr fun given => and_congr_right fun _ => ?_)
    simp only [Field.forall₂_reads_required_iff, List.forall₂_nil_left_iff]
    constructor
    · intro h
      split at h
      · simp only [Option.bind_eq_bind, Option.bind_eq_some_iff, Option.pure_def, Option.some.injEq] at h
        obtain ⟨persisted, hpersisted, marked, hmarked, rfl⟩ := h
        exact ⟨_, _, hpersisted, ⟨_, _, hmarked, rfl, rfl⟩, rfl⟩
      · cases h
    · rintro ⟨_, _, hpersisted, ⟨_, _, hmarked, rfl, rfl⟩, rfl⟩
      simp [hpersisted, hmarked]

instance : Record CommitReport where
  fields := [⟨"txId", CommitReport.id, none⟩, ⟨"written", CommitReport.written, none⟩,
    ⟨"removed", CommitReport.removed, none⟩]
  nodup := by decide
  encode_eq _ := rfl
  decode_iff {j report} := by
    refine Option.bind_eq_some_iff.trans (exists_congr fun given => and_congr_right fun _ => ?_)
    simp only [Field.forall₂_reads_required_iff, List.forall₂_nil_left_iff]
    constructor
    · intro h
      split at h
      · simp only [Option.bind_eq_bind, Option.bind_eq_some_iff, Option.pure_def, Option.some.injEq] at h
        obtain ⟨id, hid, written, hwritten, removed, hremoved, rfl⟩ := h
        exact ⟨_, _, hid, ⟨_, _, hwritten, ⟨_, _, hremoved, rfl, rfl⟩, rfl⟩, rfl⟩
      · cases h
    · rintro ⟨_, _, hid, ⟨_, _, hwritten, ⟨_, _, hremoved, rfl, rfl⟩, rfl⟩, rfl⟩
      simp [hid, hwritten, hremoved]

theorem faithful_row : Faithful Row :=
  Record.faithful (by simp [Record.fields, faithful_key, faithful_columns])

theorem faithful_change : Faithful Change :=
  Record.faithful (by
    simp [Record.fields, faithful_row, faithful_uint64, faithful_bool, faithful_pending])

theorem faithful_settings : Faithful Settings :=
  Record.faithful (by simp [Record.fields, faithful_string, faithful_bool])

theorem faithful_flushReport : Faithful FlushReport :=
  Record.faithful (by simp [Record.fields, faithful_nat])

theorem faithful_commitReport : Faithful CommitReport :=
  Record.faithful (by
    simp [Record.fields, faithful_uint64, faithful_nat, faithful_list faithful_key])

end Records

section Written

theorem spells_encode_key (k : Key) : Spells (encode k) k := by
  cases k <;> rfl

theorem spells_encode_pending (p : Pending) : Spells (encode p) p := .inl rfl

theorem spells_encode_stage (s : Stage) : Spells (encode s) s := .inl rfl

theorem spells_encode_list {α : Type} [Form α] [Spelling α] {l : List α}
    (h : ∀ a ∈ l, Spells (encode a) a) : Spells (encode l) l := by
  refine ⟨l.map encode, rfl, ?_⟩
  rw [List.forall₂_map_left_iff, List.forall₂_same]
  exact h

theorem spells_encode_row (row : Row) : Spells (encode row) row :=
  Record.spells_encode (by simpa [Record.fields] using ⟨spells_encode_key row.key, rfl⟩)

theorem spells_encode_change (c : Change) : Spells (encode c) c :=
  Record.spells_encode (by simpa [Record.fields] using
    ⟨spells_encode_row c.row, rfl, rfl, rfl, spells_encode_pending c.pending⟩)

theorem spells_encode_settings (s : Settings) : Spells (encode s) s :=
  Record.spells_encode (by simpa [Record.fields] using ⟨rfl, rfl⟩)

theorem spells_encode_flushReport {report : FlushReport} (hpersisted : report.persisted < UInt64.size)
    (hmarked : report.marked < UInt64.size) : Spells (encode report) report :=
  Record.spells_encode (by simpa [Record.fields] using ⟨⟨rfl, hpersisted⟩, ⟨rfl, hmarked⟩⟩)

theorem spells_encode_commitReport {report : CommitReport} (hwritten : report.written < UInt64.size) :
    Spells (encode report) report :=
  Record.spells_encode (by simpa [Record.fields] using
    ⟨rfl, ⟨rfl, hwritten⟩, spells_encode_list fun k _ => spells_encode_key k⟩)

end Written

/-- What is written is read again as it was, where the counts of a report are words of 64 bits. All other
documents that stand for a value are read as that value, and the faulty ones are not read. -/
theorem documents_have_one_meaning :
    ((∀ k : Key, decode (encode k) = some k) ∧ (∀ p : Pending, decode (encode p) = some p) ∧
      (∀ row : Row, decode (encode row) = some row) ∧ (∀ c : Change, decode (encode c) = some c) ∧
      (∀ settings : Settings, decode (encode settings) = some settings) ∧
      (∀ stage : Stage, decode (encode stage) = some stage) ∧
      (∀ report : FlushReport, report.persisted < UInt64.size → report.marked < UInt64.size →
        decode (encode report) = some report) ∧
      ∀ report : CommitReport, report.written < UInt64.size → decode (encode report) = some report) ∧
    Faithful Key ∧ Faithful Pending ∧ Faithful Row ∧ Faithful Change ∧ Faithful Settings ∧
    Faithful Stage ∧ Faithful FlushReport ∧ Faithful CommitReport := by
  refine ⟨⟨?_, ?_, ?_, ?_, ?_, ?_, ?_, ?_⟩, faithful_key, faithful_pending, faithful_row,
    faithful_change, faithful_settings, faithful_stage, faithful_flushReport, faithful_commitReport⟩
  · exact fun k => faithful_key.decode_of_spells (spells_encode_key k)
  · exact fun p => faithful_pending.decode_of_spells (spells_encode_pending p)
  · exact fun row => faithful_row.decode_of_spells (spells_encode_row row)
  · exact fun c => faithful_change.decode_of_spells (spells_encode_change c)
  · exact fun settings => faithful_settings.decode_of_spells (spells_encode_settings settings)
  · exact fun stage => faithful_stage.decode_of_spells (spells_encode_stage stage)
  · intro report hpersisted hmarked
    exact faithful_flushReport.decode_of_spells (spells_encode_flushReport hpersisted hmarked)
  · intro report hwritten
    exact faithful_commitReport.decode_of_spells (spells_encode_commitReport hwritten)

/-- The members of a change stand in another order, its row is a list, and there is a note. A second
`readId` spoils it. -/
theorem scattered_change_is_read :
    let c : Change := ⟨.blank (.text "1"), 5, 7, true, .update⟩
    let ms : List (String × Json) := [("rowAction", .object [("update", .null)]), ("note", .unreadable),
      ("readId", .integer 5), ("writeId", .integer 7), ("isWritten", .boolean true),
      ("record", .list [.text "1", .object []])]
    let report : FlushReport := ⟨2, 1⟩
    decode (.object ms) = some c ∧
      (decode (.object (("readId", .integer 5) :: ms)) : Option Change) = none ∧
      2 < UInt64.size ∧ 1 < UInt64.size ∧ decode (encode report) = some report := by
  intro c ms report
  obtain ⟨⟨-, -, -, -, -, -, hreport, -⟩, -, -, -, hchange, -⟩ := documents_have_one_meaning
  have hrow : Spells (.list [.text "1", .object []]) c.row := by
    refine Record.Spelled.list (by decide) fun i f hf => ?_
    match i with
    | 0 | 1 =>
      cases hf
      rfl
    | i + 2 => cases hf
  have hms : Spells (.object ms) c := by
    have hperm : ms.Perm ([("record", .list [.text "1", .object []]), ("readId", .integer 5),
      ("writeId", .integer 7), ("isWritten", .boolean true),
      ("rowAction", .object [("update", .null)])] ++ [("note", .unreadable)]) := by decide
    refine Record.Spelled.object hperm ?_ (by decide)
    exact .given hrow (.given rfl (.given rfl (.given rfl (.given (.inr rfl) .nil))))
  have hspoilt : Faulty Change (.object (("readId", .integer 5) :: ms)) :=
    Record.Spoilt.repeated (f := ⟨"readId", Change.readId, none⟩) (by simp [Record.fields]) (by decide)
  exact ⟨hchange.decode_of_spells hms, hchange.decode_of_faulty hspoilt, by decide, by decide,
    hreport report (by decide) (by decide)⟩

end Form

end TrackedRows
