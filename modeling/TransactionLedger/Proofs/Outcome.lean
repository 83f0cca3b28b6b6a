/-!
# Outcomes of steps that may fail

A chain of steps succeeds if every step does, and fails with the first fault of them.
-/

namespace TransactionLedger

variable {ε δ α β : Type}

@[simp]
theorem ok_bind (value : α) (next : α → Except ε β) : (Except.ok value >>= next) = next value :=
  rfl

@[simp]
theorem error_bind (error : ε) (next : α → Except ε β) :
    (Except.error error >>= next) = .error error :=
  rfl

@[simp]
theorem pure_eq_ok (value : α) : (pure value : Except ε α) = .ok value :=
  rfl

theorem bind_eq_ok_iff {outcome : Except ε α} {next : α → Except ε β} {result : β} :
    outcome >>= next = .ok result ↔ ∃ value, outcome = .ok value ∧ next value = .ok result := by
  cases outcome <;> simp

theorem bind_eq_error_iff {outcome : Except ε α} {next : α → Except ε β} {error : ε} :
    outcome >>= next = .error error ↔
      outcome = .error error ∨ ∃ value, outcome = .ok value ∧ next value = .error error := by
  cases outcome <;> simp

theorem map_eq_ok_iff {change : α → β} {outcome : Except ε α} {result : β} :
    outcome.map change = .ok result ↔ ∃ value, outcome = .ok value ∧ change value = result := by
  cases outcome with
  | ok value =>
      change Except.ok (change value) = Except.ok result ↔ _
      simp
  | error failure => exact ⟨nofun, nofun⟩

theorem map_eq_error_iff {change : α → β} {outcome : Except ε α} {error : ε} :
    outcome.map change = .error error ↔ outcome = .error error := by
  cases outcome with
  | ok value => exact ⟨nofun, nofun⟩
  | error failure =>
      change (Except.error failure : Except ε β) = .error error ↔ _
      simp only [Except.error.injEq]

@[simp]
theorem mapError_eq_ok_iff {change : ε → δ} {outcome : Except ε α} {result : α} :
    outcome.mapError change = .ok result ↔ outcome = .ok result := by
  cases outcome with
  | ok value =>
      change Except.ok value = Except.ok result ↔ _
      simp only [Except.ok.injEq]
  | error failure => exact ⟨nofun, nofun⟩

theorem mapError_eq_error_iff {change : ε → δ} {outcome : Except ε α} {error : δ} :
    outcome.mapError change = .error error ↔
      ∃ failure, outcome = .error failure ∧ change failure = error := by
  cases outcome with
  | ok value => exact ⟨nofun, nofun⟩
  | error failure =>
      change Except.error (change failure) = Except.error error ↔ _
      simp

section Lists

variable {γ : Type} {step : α → Except ε β}

@[simp]
theorem mapM_nil_eq_ok_iff {results : List β} :
    ([] : List α).mapM step = .ok results ↔ results = [] := by
  simp only [List.mapM_nil, pure_eq_ok, Except.ok.injEq]
  exact eq_comm

theorem mapM_cons_eq_ok_iff {value : α} {rest : List α} {results : List β} :
    (value :: rest).mapM step = .ok results ↔
      ∃ first more, step value = .ok first ∧ rest.mapM step = .ok more ∧
        results = first :: more := by
  simp only [List.mapM_cons, bind_eq_ok_iff, pure_eq_ok, Except.ok.injEq]
  constructor
  · rintro ⟨first, stepped, more, walked, rfl⟩
    exact ⟨first, more, stepped, walked, rfl⟩
  · rintro ⟨first, more, stepped, walked, rfl⟩
    exact ⟨first, stepped, more, walked, rfl⟩

/-- The results are the results of the values. -/
theorem mem_mapM_iff {values : List α} {results : List β} (walked : values.mapM step = .ok results)
    {result : β} : result ∈ results ↔ ∃ value ∈ values, step value = .ok result := by
  induction values generalizing results with
  | nil =>
      rw [mapM_nil_eq_ok_iff] at walked
      simp [walked]
  | cons value rest ih =>
      rcases mapM_cons_eq_ok_iff.mp walked with ⟨first, more, stepped, walkedRest, rfl⟩
      simp only [List.mem_cons, exists_eq_or_imp, stepped, Except.ok.injEq, ih walkedRest]
      exact or_congr_left eq_comm

/-- Every value has its result. -/
theorem exists_of_mem_mapM {values : List α} {results : List β}
    (walked : values.mapM step = .ok results) {value : α} (inside : value ∈ values) :
    ∃ result, step value = .ok result := by
  induction values generalizing results with
  | nil => contradiction
  | cons first rest ih =>
      rcases mapM_cons_eq_ok_iff.mp walked with ⟨result, more, stepped, walkedRest, -⟩
      rcases List.mem_cons.mp inside with rfl | behind
      · exact ⟨result, stepped⟩
      · exact ih walkedRest behind

/-- A walk succeeds if every step of it does. -/
theorem exists_mapM_of_forall {values : List α}
    (steps : ∀ value ∈ values, ∃ result, step value = .ok result) :
    ∃ results, values.mapM step = .ok results := by
  induction values with
  | nil => exact ⟨[], rfl⟩
  | cons value rest ih =>
      rcases List.forall_mem_cons.mp steps with ⟨⟨result, stepped⟩, restSteps⟩
      rcases ih restSteps with ⟨results, walked⟩
      exact ⟨result :: results, mapM_cons_eq_ok_iff.mpr ⟨result, results, stepped, walked, rfl⟩⟩

/-- A walk that fails does so at one of its steps. -/
theorem exists_of_mapM_eq_error {values : List α} {error : ε}
    (failed : values.mapM step = .error error) : ∃ value ∈ values, step value = .error error := by
  induction values with
  | nil => cases failed
  | cons value rest ih =>
      simp only [List.mapM_cons, bind_eq_error_iff, pure_eq_ok, reduceCtorEq, and_false, exists_false,
        or_false] at failed
      rcases failed with here | ⟨_, -, behind⟩
      · exact ⟨value, List.mem_cons_self, here⟩
      · rcases ih behind with ⟨other, inside, failed⟩
        exact ⟨other, List.mem_cons_of_mem _ inside, failed⟩

/-- Values and results can be filtered alike. -/
theorem mapM_filter {keep : α → Bool} {kept : β → Bool} {values : List α} {results : List β}
    (walked : values.mapM step = .ok results)
    (alike : ∀ value ∈ values, ∀ result, step value = .ok result → keep value = kept result) :
    (values.filter keep).mapM step = .ok (results.filter kept) := by
  induction values generalizing results with
  | nil =>
      rw [mapM_nil_eq_ok_iff] at walked
      simp [walked]
  | cons value rest ih =>
      rcases mapM_cons_eq_ok_iff.mp walked with ⟨first, more, stepped, walkedRest, rfl⟩
      have restFiltered := ih walkedRest fun other inside =>
        alike other (List.mem_cons_of_mem _ inside)
      have same := alike value (by simp) first stepped
      cases holds : keep value with
      | true =>
          rw [List.filter_cons_of_pos holds, List.filter_cons_of_pos (same ▸ holds)]
          exact mapM_cons_eq_ok_iff.mpr ⟨first, _, stepped, restFiltered, rfl⟩
      | false =>
          rw [List.filter_cons_of_neg (by simp [holds]),
            List.filter_cons_of_neg (by simp [← same, holds])]
          exact restFiltered

theorem mapM_append_singleton {values : List α} {results : List β} {value : α} {result : β}
    (walked : values.mapM step = .ok results) (stepped : step value = .ok result) :
    (values ++ [value]).mapM step = .ok (results ++ [result]) := by
  rw [List.mapM_append, walked]
  simp [stepped]

theorem mapM_map_eq (before : α → γ) (behind : β → γ) {values : List α} {results : List β}
    (walked : values.mapM step = .ok results)
    (kept : ∀ value result, step value = .ok result → behind result = before value) :
    results.map behind = values.map before := by
  induction values generalizing results with
  | nil =>
      rw [mapM_nil_eq_ok_iff] at walked
      simp [walked]
  | cons value rest ih =>
      rcases mapM_cons_eq_ok_iff.mp walked with ⟨first, more, stepped, walkedRest, rfl⟩
      rw [List.map_cons, List.map_cons, kept value first stepped, ih walkedRest]

theorem mapM_mapError_eq_ok_iff (change : ε → δ) {values : List α} {results : List β} :
    (values.mapM fun value => (step value).mapError change) = .ok results ↔
      values.mapM step = .ok results := by
  induction values generalizing results with
  | nil => simp
  | cons value rest ih => simp only [mapM_cons_eq_ok_iff, mapError_eq_ok_iff, ih]

/-- Two walks in a row are a walk with two steps. -/
theorem mapM_bind_eq_ok_iff {next : β → Except ε γ} {values : List α} {results : List γ} :
    (∃ between, values.mapM step = .ok between ∧ between.mapM next = .ok results) ↔
      (values.mapM fun value => step value >>= next) = .ok results := by
  induction values generalizing results with
  | nil => simp
  | cons value rest ih =>
      simp only [mapM_cons_eq_ok_iff, bind_eq_ok_iff, ← ih]
      constructor
      · rintro ⟨_, ⟨first, more, stepped, walked, rfl⟩, walkedNext⟩
        rcases mapM_cons_eq_ok_iff.mp walkedNext with ⟨last, others, steppedNext, others_eq, rfl⟩
        exact ⟨last, others, ⟨first, stepped, steppedNext⟩, ⟨more, walked, others_eq⟩, rfl⟩
      · rintro ⟨last, others, ⟨first, stepped, steppedNext⟩, ⟨more, walked, walkedNext⟩, rfl⟩
        exact ⟨first :: more, ⟨first, more, stepped, walked, rfl⟩,
          mapM_cons_eq_ok_iff.mpr ⟨last, others, steppedNext, walkedNext, rfl⟩⟩

end Lists

section Options

variable {step : α → Except ε β} {value? : Option α}

theorem optionMapM_eq_ok_iff {result? : Option β} :
    value?.mapM step = .ok result? ↔
      Option.Rel (fun value result => step value = .ok result) value? result? := by
  cases value? with
  | none =>
      constructor
      · rintro ⟨⟩
        exact .none
      · rintro ⟨⟩
        rfl
  | some value =>
      change (step value).map some = .ok result? ↔ _
      rw [map_eq_ok_iff]
      constructor
      · rintro ⟨result, stepped, rfl⟩
        exact .some stepped
      · rintro ⟨stepped⟩
        exact ⟨_, stepped, rfl⟩

theorem optionMapM_eq_error_iff {error : ε} :
    value?.mapM step = .error error ↔ ∃ value ∈ value?, step value = .error error := by
  cases value? with
  | none => exact ⟨nofun, nofun⟩
  | some value =>
      change (step value).map some = .error error ↔ _
      rw [map_eq_error_iff]
      simp

/-- An optional value is related to something if the value is. -/
theorem exists_optionRel_iff {related : α → β → Prop} :
    (∃ result?, Option.Rel related value? result?) ↔
      ∀ value ∈ value?, ∃ result, related value result := by
  cases value? with
  | none => exact ⟨fun _ => nofun, fun _ => ⟨none, .none⟩⟩
  | some value =>
      constructor
      · rintro ⟨_, ⟨holds⟩⟩ _ ⟨⟩
        exact ⟨_, holds⟩
      · intro holds
        rcases holds value rfl with ⟨result, holds⟩
        exact ⟨some result, .some holds⟩

end Options
section Faults

variable {sound : α → Prop} {fault : α → ε → Prop} {error : ε}

/-- The error is the fault of a part behind sound ones. -/
def FirstFault (sound : α → Prop) (fault : α → ε → Prop) (parts : List α) (error : ε) : Prop :=
  ∃ before part behind, parts = before ++ part :: behind ∧ (∀ earlier ∈ before, sound earlier) ∧
    fault part error

@[simp]
theorem firstFault_nil : ¬ FirstFault sound fault [] error := by
  rintro ⟨before, part, behind, shape, -⟩
  simp at shape

theorem firstFault_cons {part : α} {rest : List α} :
    FirstFault sound fault (part :: rest) error ↔
      fault part error ∨ sound part ∧ FirstFault sound fault rest error := by
  constructor
  · rintro ⟨before, other, behind, shape, earlier, failed⟩
    cases before with
    | nil =>
        rcases List.cons.inj shape with ⟨rfl, -⟩
        exact .inl failed
    | cons first before =>
        rcases List.cons.inj shape with ⟨rfl, restShape⟩
        rcases List.forall_mem_cons.mp earlier with ⟨here, later⟩
        exact .inr ⟨here, before, other, behind, restShape, later, failed⟩
  · rintro (failed | ⟨here, before, other, behind, rfl, earlier, failed⟩)
    · exact ⟨[], part, rest, rfl, nofun, failed⟩
    · exact ⟨part :: before, other, behind, rfl, List.forall_mem_cons.mpr ⟨here, earlier⟩, failed⟩

@[simp]
theorem firstFault_singleton {part : α} : FirstFault sound fault [part] error ↔ fault part error := by
  simp [firstFault_cons]

theorem firstFault_append {front back : List α} :
    FirstFault sound fault (front ++ back) error ↔
      FirstFault sound fault front error ∨
        (∀ part ∈ front, sound part) ∧ FirstFault sound fault back error := by
  induction front with
  | nil => simp
  | cons part rest ih =>
      simp only [List.cons_append, firstFault_cons, ih, List.forall_mem_cons, and_or_left,
        or_assoc, and_assoc]

end Faults
end TransactionLedger
