import TunnelBench.Proofs.Response.LengthLines

/-!
# Lengths that are left behind

Bytes that are set as a body declare their number, and a reader that is set in their place takes it
over. So a response for which no length was ever declared by itself can still be refused for one:
the number of bytes that it does not send. This is the only way. A length that is taken back in
between is measured again, and bytes behind the reader declare their own.
-/
namespace TunnelBench.Response

/-- Settings of which none declares a length by itself. -/
def Undeclared (settings : List Setting) : Prop := ∀ length, Setting.length (some length) ∉ settings

/-- A length that bytes leave behind for a reader: nothing is said about the length after them, and
the last body after them is the reader. -/
def LeftBehind (settings : List Setting) (length : Nat) : Prop :=
  ∃ before data after, settings = before ++ .body data :: after ∧
    (∀ setting ∈ after, setting.length? = none) ∧
    (∃ source, lastBody after = some (.reader source)) ∧ length = data.length

variable {settings : List Setting} {length : Nat} {bytes : Bytes}

/-- The last word on the length is the one of the last setting that has one. -/
theorem lastLength_concat (settings : List Setting) (setting : Setting) :
    lastLength (settings ++ [setting]) = (setting.length?.getD (lastLength settings)) := by
  rw [lastLength, List.filterMap_append, List.getLast?_append]
  cases setting <;> rfl

/-- The last body is set in the later settings, or before them. -/
theorem lastBody_append (before after : List Setting) :
    lastBody (before ++ after) = (lastBody after).or (lastBody before) := by
  rw [lastBody, List.filterMap_append, List.getLast?_append]
  rfl

/-- The bytes with the last word on the length, and the settings after them that have none. -/
theorem exists_of_lastLength (undeclared : Undeclared settings)
    (last : lastLength settings = some length) :
    ∃ before data after, settings = before ++ .body data :: after ∧
      (∀ setting ∈ after, setting.length? = none) ∧ length = data.length := by
  induction settings using List.reverseRecOn with
  | nil => contradiction
  | append_singleton settings setting ih =>
    rw [lastLength_concat] at last
    cases word : setting.length? with
    | some declared =>
      rw [word, Option.getD_some] at last
      cases setting with
      | body data =>
        have same : data.length = length := Option.some.inj ((Option.some.inj word).trans last)
        exact ⟨settings, data, [], rfl, List.forall_mem_nil _, same.symm⟩
      | length other =>
        have own : other = some length := (Option.some.inj word).trans last
        rw [own] at undeclared
        exact absurd (List.mem_append_right _ (List.mem_singleton_self _)) (undeclared length)
      | _ => contradiction
    | none =>
      rw [word, Option.getD_none] at last
      have before : Undeclared settings := fun length declared =>
        undeclared length (List.mem_append_left _ declared)
      obtain ⟨front, data, after, rfl, silent, same⟩ := ih before last
      refine ⟨front, data, after ++ [setting], List.append_assoc .., ?_, same⟩
      exact List.forall_mem_append.2 ⟨silent, List.forall_mem_singleton.2 word⟩

/-- Bytes with nothing about the length after them have the last word on it. -/
theorem lastLength_of_silent (before : List Setting) (data : Bytes) {after : List Setting}
    (silent : ∀ setting ∈ after, setting.length? = none) :
    lastLength (before ++ .body data :: after) = some data.length := by
  rw [lastLength, List.filterMap_append, List.filterMap_cons, List.filterMap_eq_nil_iff.2 silent,
    List.getLast?_append]
  rfl

/-- A length that is left behind is the last word on it. -/
theorem LeftBehind.lastLength (left : LeftBehind settings length) :
    lastLength settings = some length := by
  obtain ⟨before, data, after, rfl, silent, -, rfl⟩ := left
  exact lastLength_of_silent before data silent

/-- A length that is left behind is declared. -/
theorem LeftBehind.contentLength (status : Status) (left : LeftBehind settings length) :
    (described status settings).contentLength = some length := by
  rw [contentLength_described]
  exact left.lastLength

/-- Settings that say nothing about the length set no bytes as a body. -/
theorem ne_fixed_of_silent (silent : ∀ setting ∈ settings, setting.length? = none) (data : Bytes) :
    lastBody settings ≠ some (.fixed data) := by
  intro last
  have present := List.mem_of_getLast? last
  obtain ⟨setting, member, sets⟩ := List.mem_filterMap.1 present
  have unsaid := silent setting member
  cases setting with
  | body bytes => contradiction
  | reader source => exact Body.noConfusion (Option.some.inj sets)
  | _ => contradiction

/-- The last word on the length is that of the body, unless it was left behind for a reader. -/
theorem fits_or_leftBehind (undeclared : Undeclared settings)
    (carries : Carries (lastBody settings) bytes) (last : lastLength settings = some length) :
    length = bytes.length ∨ LeftBehind settings length := by
  obtain ⟨before, data, after, rfl, silent, same⟩ := exists_of_lastLength undeclared last
  have split : lastBody (before ++ .body data :: after) =
      (lastBody after).or (some (.fixed data)) := by
    rw [List.append_cons, lastBody_append, lastBody_append]
    cases lastBody after <;> rfl
  rw [split] at carries
  cases later : lastBody after with
  | none =>
    rw [later] at carries
    rw [same, carries.eq (.fixed data)]
    exact .inl rfl
  | some body =>
    cases body with
    | fixed other => exact absurd later (ne_fixed_of_silent silent other)
    | reader source => exact .inr ⟨before, data, after, rfl, silent, ⟨source, later⟩, same⟩

/-- If every length that is left behind is that of the last body, no other is declared. -/
theorem fits_of_leftBehind (status : Status) (undeclared : Undeclared settings)
    (carries : Carries (lastBody settings) bytes)
    (all : ∀ length, LeftBehind settings length → length = bytes.length) :
    ∀ length, (described status settings).contentLength = some length → length = bytes.length := by
  intro length declares
  rw [contentLength_described] at declares
  obtain fits | left := fits_or_leftBehind undeclared carries declares
  · exact fits
  · exact all length left

/-- A reader is written with a length, and if no length but that of the bytes is declared it is
theirs. -/
theorem declared_of_reader {response : Response} {source : Source}
    (reads : response.body = some (.reader source))
    (fits : ∀ length, response.contentLength = some length → length = bytes.length) :
    (response.written bytes).declared = some bytes.length := by
  cases known : response.contentLength with
  | none => exact declared_written.2 (.inr ⟨known, ⟨source, reads⟩, rfl⟩)
  | some length =>
    rw [← fits length known]
    exact declared_written.2 (.inl known)

/-- All lengths that a head states are that of the body if those are that the headers state. -/
theorem Written.statedLengths_iff {final : Written} (unbroken : final.Unbroken)
    (fits : ∀ length, final.declared = some length → length = final.body.length) :
    (∀ stated ∈ statedLengths (Bytes.lineEnd.intercalate final.lines),
      stated = .ofNat final.body.length) ↔
        ∀ stated ∈ headerLengths final.headers, stated = .ofNat final.body.length := by
  have own : ∀ stated ∈ (final.declared.map Bytes.ofNat).toList,
      stated = .ofNat final.body.length := by
    intro stated member
    rw [Option.mem_toList, Option.map_eq_some_iff] at member
    obtain ⟨length, declares, rfl⟩ := member
    rw [fits length declares]
  rw [statedLengths_lines unbroken, List.forall_mem_append]
  exact and_iff_right own

/-- If no length is declared by itself and the last body can be had, a response is written exactly
if every length that bytes have left behind for a reader is that of the body, and else refused for
it. In a response that is written the length line has the length of the body, a reader has such a
line, and if no text has a carriage return in it all lengths that the head states are that of the
body exactly if those are that its own headers state. -/
theorem undeclared_length_exact (status : Status) {settings : List Setting}
    (undeclared : Undeclared settings) {bytes : Bytes}
    (carries : Carries (lastBody settings) bytes) :
    ((∃ output, (described status settings).render = .ok output) ↔
      ∀ length, LeftBehind settings length → length = bytes.length) ∧
    (∀ length, LeftBehind settings length → length ≠ bytes.length →
      (described status settings).render = .error (.lengthMismatch length bytes.length)) ∧
    ∀ output, (described status settings).render = .ok output →
      ∃ final, (described status settings).settle = .ok final ∧ output = final.statusLine ++
          (final.lengthHeader?.toList.flatMap Written.textLine ++
            ((described status settings).headers.flatMap Written.textLine ++
              (Bytes.lineEnd ++ bytes))) ∧
        (∀ length, final.declared = some length → length = bytes.length) ∧
        (∀ source, lastBody settings = some (.reader source) →
          final.declared = some bytes.length) ∧
        ((∀ setting ∈ settings, setting.Unbroken) →
          ∃ head, headAndBody? output = some (head, bytes) ∧
            ((∀ stated ∈ statedLengths head, stated = .ofNat bytes.length) ↔
              ∀ stated ∈ headerLengths (described status settings).headers,
                stated = .ofNat bytes.length)) := by
  have held : Carries (described status settings).body bytes := by
    rw [body_described]
    exact carries
  have refused : ∀ length, LeftBehind settings length → length ≠ bytes.length →
      (described status settings).render = .error (.lengthMismatch length bytes.length) := by
    intro length left differs
    exact render_of_differs held (left.contentLength status) differs
  have needed : ∀ output, (described status settings).render = .ok output →
      ∀ length, LeftBehind settings length → length = bytes.length := by
    intro output rendered length left
    by_contra differs
    rw [refused length left differs] at rendered
    contradiction
  refine ⟨⟨?_, ?_⟩, refused, ?_⟩
  · rintro ⟨output, rendered⟩
    exact needed output rendered
  · intro all
    have fits := fits_of_leftBehind status undeclared carries all
    exact ⟨_, render_of_settle (settle_of_fits held fits)⟩
  · intro output rendered
    have fits := fits_of_leftBehind status undeclared carries (needed output rendered)
    have final := settle_of_fits held fits
    have written := Except.ok.inj (rendered.symm.trans (render_of_settle final))
    have declared := declared_of_fits fits
    refine ⟨_, final, written.trans (Written.bytes_parts _), declared, ?_, ?_⟩
    · intro source reads
      exact declared_of_reader ((body_described status settings).trans reads) fits
    · intro plain
      have unbroken := (unbroken_described status plain).written bytes
      rw [written]
      exact ⟨_, (Written.headAndBody?_bytes unbroken).1,
        Written.statedLengths_iff unbroken declared⟩

/-- Bytes, a reader and bytes again, with lengths that were taken back or that fit. -/
def retaken : List Setting :=
  [.body (.ofString "abc"), .length none, .header "X" "y", .body (.ofString "olleh"),
    .reader [.data (.ofString "he"), .data (.ofString "llo")], .version .http11]

/-- The last bytes leave the length behind that the reader has. -/
theorem undeclared_length_of_retaken :
    Undeclared retaken ∧ LeftBehind retaken 5 ∧
      (∃ output, (described .ok retaken).render = .ok output) ∧
      (described .ok (retaken ++ [.reader []])).render = .error (.lengthMismatch 5 0) := by
  have undeclared : Undeclared retaken := by simp [Undeclared, retaken]
  have carries : Carries (lastBody retaken) (.ofString "hello") := .reader (Source.readsOut _)
  have left : LeftBehind retaken 5 := by
    refine ⟨[.body (.ofString "abc"), .length none, .header "X" "y"], .ofString "olleh",
      [.reader [.data (.ofString "he"), .data (.ofString "llo")], .version .http11], rfl, ?_,
      ⟨_, rfl⟩, rfl⟩
    simp [Setting.length?]
  have fits : ∀ length, LeftBehind retaken length → length = (Bytes.ofString "hello").length := by
    intro length other
    exact Option.some.inj (other.lastLength.symm.trans left.lastLength)
  have written := (undeclared_length_exact .ok undeclared carries).1.2 fits
  have again : Undeclared (retaken ++ [.reader []]) := by simp [Undeclared, retaken]
  have empty : Carries (lastBody (retaken ++ [.reader []])) [] := .reader (Source.readsOut _)
  have leftAgain : LeftBehind (retaken ++ [.reader []]) 5 := by
    refine ⟨[.body (.ofString "abc"), .length none, .header "X" "y"], .ofString "olleh",
      [.reader [.data (.ofString "he"), .data (.ofString "llo")], .version .http11, .reader []],
      rfl, ?_, ⟨_, rfl⟩, rfl⟩
    simp [Setting.length?]
  have refused := (undeclared_length_exact .ok again empty).2.1 5 leftAgain (by decide)
  exact ⟨undeclared, left, written, refused⟩

/-- A reader that is set in the place of fewer bytes. -/
def outgrown : List Setting :=
  [.body (.ofString "abc"), .reader [.data (.ofString "hello")]]

/-- The outgrown bytes leave their length behind: the response is refused though no length was
declared for it. -/
theorem outgrown_refused :
    Undeclared outgrown ∧ Carries (lastBody outgrown) (.ofString "hello") ∧
      (described .ok outgrown).render = .error (.lengthMismatch 3 5) := by
  have undeclared : Undeclared outgrown := by simp [Undeclared, outgrown]
  exact ⟨undeclared, .reader (Source.readsOut _), by decide⟩

end TunnelBench.Response
