import TunnelBench.Proofs.Text.Trimming
import TunnelBench.Request.Framing

/-!
# The rule of body framing

Many headers may speak about one body. The last transfer coding decides alone, by its last
part; only where there is none do the declared lengths count, and then they all have to be
one number. So the framing depends on the values of the headers that speak about the body,
and not on how they are mixed with others, split into lines, or, for lengths, ordered.
-/
namespace TunnelBench.Framing

/-- The headers that name a transfer coding. -/
def codings (headers : List Header) : List Header :=
  headers.filter (·.isNamed "transfer-encoding")

/-- The values of the headers that declare a length. -/
def lengths (headers : List Header) : List Bytes :=
  (headers.filter (·.isNamed "content-length")).map (·.value)

/-- The last part of a value: what follows its last comma, without the blanks around it. -/
def EndsIn (value part : Bytes) : Prop :=
  ∃ tail, IsTail 44 value tail ∧ IsCore Bytes.isBlank tail part

/-- Every value has one last part. -/
theorem endsIn_iff {value part : Bytes} :
    EndsIn value part ↔ (value.afterLast 44).trim = part := by
  constructor
  · rintro ⟨tail, isTail, isCore⟩
    rw [isTail_iff.1 isTail]
    exact Bytes.isCore_iff_trim.1 isCore
  · intro trimmed
    exact ⟨value.afterLast 44, isTail_iff.2 rfl, Bytes.isCore_iff_trim.2 trimmed⟩

/-- What stands in front of a comma does not matter. -/
theorem EndsIn.behind {value part : Bytes} (ends : EndsIn value part) (front : Bytes) :
    EndsIn (front ++ 44 :: value) part := by
  obtain ⟨tail, ⟨unmarked, stands⟩, isCore⟩ := ends
  refine ⟨tail, ⟨unmarked, .inr ?_⟩, isCore⟩
  rcases stands with rfl | ⟨before, rfl⟩
  · exact ⟨front, rfl⟩
  · exact ⟨front ++ 44 :: before, by simp⟩

/-- Values joined with commas end as the last of them does. -/
theorem EndsIn.joined {values : List Bytes} {last part : Bytes}
    (final : values.getLast? = some last) (ends : EndsIn last part) :
    EndsIn (List.intercalate [44] values) part := by
  induction values with
  | nil => contradiction
  | cons value rest ih =>
    cases rest with
    | nil =>
      rw [List.getLast?_singleton, Option.some.injEq] at final
      rw [List.intercalate_singleton, final]
      exact ends
    | cons next others =>
      rw [List.getLast?_cons_cons] at final
      rw [List.intercalate_cons_cons, List.append_assoc]
      exact (ih final).behind value

/-- Whether a coding is understood depends on its last part. -/
theorem ofTransferEncoding_of_endsIn {value part : Bytes} (ends : EndsIn value part) :
    ofTransferEncoding value =
      if part.sameName (.ofString "chunked") then .ok .chunked
      else .error (.transferEncoding value) := by
  rw [ofTransferEncoding, endsIn_iff.1 ends]

/-- Codings with the same last part agree, up to what an error says. -/
theorem ofTransferEncoding_toOption {value other part : Bytes} (ends : EndsIn value part)
    (otherEnds : EndsIn other part) :
    (ofTransferEncoding value).toOption = (ofTransferEncoding other).toOption := by
  rw [ofTransferEncoding_of_endsIn ends, ofTransferEncoding_of_endsIn otherEnds]
  split
  · rfl
  · rfl

/-- The last coding decides alone. -/
theorem ofHeaders_of_getLast? {headers : List Header} {coding : Header}
    (last : (codings headers).getLast? = some coding) :
    ofHeaders headers = ofTransferEncoding coding.value := by
  unfold codings at last
  unfold ofHeaders
  rw [last]

/-- The last coding stands behind all others. -/
theorem getLast?_codings {front back : List Header} {coding : Header}
    (named : coding.isNamed "transfer-encoding" = true)
    (last : ∀ header ∈ back, header.isNamed "transfer-encoding" = false) :
    (codings (front ++ coding :: back)).getLast? = some coding := by
  have behind : back.filter (·.isNamed "transfer-encoding") = [] := by
    rw [List.filter_eq_nil_iff]
    intro header member
    simp [last header member]
  rw [codings, List.filter_append, List.filter_cons_of_pos named, behind, List.getLast?_concat]

/-- One length after another that is known: it has to be the same. -/
theorem agreedLength_some {known : Nat} {values : List Bytes} {size : Option Nat} :
    agreedLength (some known) values = .ok size ↔
      size = some known ∧ ∀ value ∈ values, declaredLength? value = some known := by
  induction values with
  | nil => simp [agreedLength, eq_comm]
  | cons value rest ih =>
    rw [agreedLength, List.forall_mem_cons]
    cases declared : declaredLength? value with
    | none => simp
    | some other =>
      by_cases same : known = other
      · simp only [same, ↓reduceIte, true_and] at ih ⊢
        exact ih
      · simp [same, Ne.symm same]

/-- There is no length where none is declared. -/
theorem agreedLength_eq_none {values : List Bytes} :
    agreedLength .none values = .ok .none ↔ values = [] := by
  cases values with
  | nil => simp [agreedLength]
  | cons value rest =>
    rw [agreedLength]
    cases declaredLength? value with
    | none => simp
    | some size => simp [agreedLength_some]

/-- A length is agreed on where all values declare it. -/
theorem agreedLength_eq_some {values : List Bytes} {size : Nat} :
    agreedLength .none values = .ok (some size) ↔
      values ≠ [] ∧ ∀ value ∈ values, declaredLength? value = some size := by
  cases values with
  | nil => simp [agreedLength]
  | cons value rest =>
    rw [agreedLength, List.forall_mem_cons]
    cases declaredLength? value with
    | none => simp
    | some other =>
      simp only [agreedLength_some, Option.some.injEq, ne_eq, reduceCtorEq, not_false_eq_true,
        true_and]
      constructor
      · rintro ⟨rfl, all⟩
        exact ⟨rfl, all⟩
      · rintro ⟨rfl, all⟩
        exact ⟨rfl, all⟩

/-- Some value declares no number, or two declare different ones. -/
def Disagree (values : List Bytes) : Prop :=
  (∃ value ∈ values, declaredLength? value = .none) ∨
    ∃ value ∈ values, ∃ other ∈ values, declaredLength? value ≠ declaredLength? other

/-- Values that do not disagree declare one number, if there are any. -/
theorem exists_size_of_not_disagree {value : Bytes} {rest : List Bytes}
    (agree : ¬Disagree (value :: rest)) :
    ∃ size, ∀ other ∈ value :: rest, declaredLength? other = some size := by
  rw [Disagree, not_or] at agree
  obtain ⟨numbers, same⟩ := agree
  cases declared : declaredLength? value with
  | none => exact absurd ⟨value, List.mem_cons_self, declared⟩ numbers
  | some size =>
    refine ⟨size, fun other member => ?_⟩
    by_contra differs
    rw [← declared] at differs
    exact same ⟨other, member, value, List.mem_cons_self, differs⟩

/-- Nothing is agreed on where values disagree. -/
theorem agreedLength_eq_error {values : List Bytes} :
    (∃ reason, agreedLength .none values = .error reason) ↔ Disagree values := by
  constructor
  · rintro ⟨reason, failed⟩
    by_contra agree
    cases values with
    | nil => contradiction
    | cons value rest =>
      obtain ⟨size, all⟩ := exists_size_of_not_disagree agree
      have agreed := agreedLength_eq_some.2 ⟨List.cons_ne_nil value rest, all⟩
      rw [failed] at agreed
      contradiction
  · intro disagree
    cases agreed : agreedLength .none values with
    | error reason => exact ⟨reason, rfl⟩
    | ok size =>
      cases size with
      | none =>
        rw [agreedLength_eq_none.1 agreed] at disagree
        simp [Disagree] at disagree
      | some size =>
        have all := (agreedLength_eq_some.1 agreed).2
        rcases disagree with ⟨value, member, silent⟩ | ⟨value, member, other, otherMember, differs⟩
        · rw [all value member] at silent
          contradiction
        · rw [all value member, all other otherMember] at differs
          exact absurd rfl differs

/-- Whether values agree, and on what, depends on which values there are. -/
theorem agreedLength_toOption {values others : List Bytes}
    (same : ∀ value, value ∈ values ↔ value ∈ others) :
    (agreedLength .none values).toOption = (agreedLength .none others).toOption := by
  have empty : values = [] ↔ others = [] := by
    simp only [List.eq_nil_iff_forall_not_mem, same]
  cases agreed : agreedLength .none values with
  | error reason =>
    have disagree : Disagree others := by
      have between := agreedLength_eq_error.1 ⟨reason, agreed⟩
      simpa only [Disagree, same] using between
    obtain ⟨cause, failed⟩ := agreedLength_eq_error.2 disagree
    rw [failed]
    rfl
  | ok size =>
    cases size with
    | none => rw [agreedLength_eq_none.2 (empty.1 (agreedLength_eq_none.1 agreed))]
    | some size =>
      obtain ⟨given, all⟩ := agreedLength_eq_some.1 agreed
      have otherAgreed := agreedLength_eq_some.2
        ⟨fun otherEmpty => given (empty.2 otherEmpty),
          fun value member => all value ((same value).2 member)⟩
      rw [otherAgreed]

/-- What is made of a success does not make one. -/
theorem toOption_map {α β : Type} (make : α → β) (result : Except Malformed α) :
    (result.map make).toOption = result.toOption.map make := by
  cases result with
  | error reason => rfl
  | ok value => rfl

/-- What an agreed length says about the body. -/
def ofLength : Option Nat → Framing
  | .none => .none
  | .some size => .length size

/-- Without a coding the lengths decide. -/
theorem ofHeaders_of_uncoded {headers : List Header} (uncoded : codings headers = []) :
    ofHeaders headers = (agreedLength .none (lengths headers)).map ofLength := by
  unfold codings at uncoded
  unfold ofHeaders lengths
  rw [uncoded]
  show (agreedLength _ _ >>= _) = _
  cases agreedLength .none ((headers.filter (·.isNamed "content-length")).map (·.value)) with
  | error reason => rfl
  | ok size =>
    cases size with
    | none => rfl
    | some size => rfl

/-- Without a coding there are three outcomes, each in its own case. -/
theorem ofHeaders_lengths {headers : List Header} (uncoded : codings headers = []) :
    (ofHeaders headers = .ok .none ↔ lengths headers = []) ∧
      (∀ size, ofHeaders headers = .ok (.length size) ↔ lengths headers ≠ [] ∧
        ∀ value ∈ lengths headers, declaredLength? value = some size) ∧
      ((∃ reason, ofHeaders headers = .error reason) ↔ Disagree (lengths headers)) := by
  rw [ofHeaders_of_uncoded uncoded, ← agreedLength_eq_none, ← agreedLength_eq_error]
  simp only [← agreedLength_eq_some]
  cases agreedLength .none (lengths headers) with
  | error reason => simp [Except.map]
  | ok size => cases size <;> simp [Except.map, ofLength]

/-- The last part of the last transfer coding decides, and without a coding the lengths do. Nothing
else has any influence: other headers have none, nor have lengths beside a coding; codings may be
joined, and lengths be put in any order and said more than once. -/
theorem ofHeaders_rule :
    (∀ front coding back part, coding.isNamed "transfer-encoding" = true →
        (∀ header ∈ back, header.isNamed "transfer-encoding" = false) →
        EndsIn coding.value part → ofHeaders (front ++ coding :: back) =
          if part.sameName (.ofString "chunked") then .ok .chunked
          else .error (.transferEncoding coding.value)) ∧
      (∀ value, ∃! part, EndsIn value part) ∧
      (∀ headers, codings headers = [] →
        (ofHeaders headers = .ok .none ↔ lengths headers = []) ∧
        (∀ size, ofHeaders headers = .ok (.length size) ↔ lengths headers ≠ [] ∧
          ∀ value ∈ lengths headers, declaredLength? value = some size) ∧
        ((∃ reason, ofHeaders headers = .error reason) ↔ Disagree (lengths headers))) ∧
      (∀ headers others, codings headers = codings others →
        codings headers ≠ [] ∨ lengths headers = lengths others →
          ofHeaders headers = ofHeaders others) ∧
      (∀ headers others joined, codings headers ≠ [] → codings others = [joined] →
        joined.value = List.intercalate [44] ((codings headers).map (·.value)) →
          (ofHeaders others).toOption = (ofHeaders headers).toOption) ∧
      ∀ headers others, codings headers = [] → codings others = [] →
        (∀ value, value ∈ lengths headers ↔ value ∈ lengths others) →
          (ofHeaders others).toOption = (ofHeaders headers).toOption := by
  refine ⟨?_, ?_, fun headers => ofHeaders_lengths, ?_, ?_, ?_⟩
  · intro front coding back part named last ends
    rw [ofHeaders_of_getLast? (getLast?_codings named last), ofTransferEncoding_of_endsIn ends]
  · intro value
    exact ⟨_, endsIn_iff.2 rfl, fun part ends => (endsIn_iff.1 ends).symm⟩
  · intro headers others same alike
    cases last : (codings headers).getLast? with
    | some coding =>
      have otherLast : (codings others).getLast? = some coding := same ▸ last
      rw [ofHeaders_of_getLast? last, ofHeaders_of_getLast? otherLast]
    | none =>
      have uncoded : codings headers = [] := List.getLast?_eq_none_iff.1 last
      have otherUncoded : codings others = [] := same ▸ uncoded
      rcases alike with coded | lengthsSame
      · exact absurd uncoded coded
      · rw [ofHeaders_of_uncoded uncoded, ofHeaders_of_uncoded otherUncoded, lengthsSame]
  · -- Joined values end as the last coding does.
    intro headers others joined coded single value
    have last := List.getLast?_eq_some_getLast coded
    have otherLast : (codings others).getLast? = some joined := by rw [single]; rfl
    have ends : EndsIn ((codings headers).getLast coded).value _ := endsIn_iff.2 rfl
    have final : ((codings headers).map (·.value)).getLast? =
        some ((codings headers).getLast coded).value := by
      rw [List.getLast?_map, last]
      rfl
    have joinedEnds := ends.joined final
    rw [← value] at joinedEnds
    rw [ofHeaders_of_getLast? last, ofHeaders_of_getLast? otherLast]
    exact ofTransferEncoding_toOption joinedEnds ends
  · intro headers others uncoded otherUncoded same
    rw [ofHeaders_of_uncoded uncoded, ofHeaders_of_uncoded otherUncoded, toOption_map,
      toOption_map, agreedLength_toOption same]

/-- A length that is no number in front of a transfer coding. -/
def codedHeaders : List Header :=
  [⟨.ofString "Content-Length", .ofString "lots"⟩, ⟨.ofString "TRANSFER-encoding", .ofString "br"⟩]

/-- The last transfer coding of a request. -/
def chunkedCoding : Header := ⟨.ofString "Transfer-Encoding", .ofString "gzip,\t Chunked "⟩

/-- All codings in one header. -/
def joinedCoding : Header :=
  ⟨.ofString "Transfer-Encoding", .ofString "br,gzip,\t Chunked "⟩

/-- One number, said twice in two ways. -/
def repeatedLengths : List Header :=
  [⟨.ofString "Host", .ofString "a"⟩, ⟨.ofString "Content-Length", .ofString "5"⟩,
    ⟨.ofString "content-length", .ofString "05"⟩]

/-- The coding decides in spite of the length in front of it, alone or joined, and one number may be
said in any order. -/
theorem ofHeaders_mixed :
    ofHeaders (codedHeaders ++ [chunkedCoding]) = .ok .chunked ∧
      ofHeaders repeatedLengths = .ok (.length 5) ∧
      ofHeaders (codedHeaders ++ [chunkedCoding]) =
        ofHeaders (repeatedLengths ++ codedHeaders ++ [chunkedCoding]) ∧
      (ofHeaders [joinedCoding]).toOption =
        (ofHeaders (codedHeaders ++ [chunkedCoding])).toOption ∧
      (ofHeaders (repeatedLengths ++ repeatedLengths.reverse)).toOption =
        (ofHeaders repeatedLengths).toOption := by
  obtain ⟨coded, -, uncoded, others, joined, ordered⟩ := ofHeaders_rule
  have chunked := coded codedHeaders chunkedCoding [] (.ofString "Chunked") (by decide +kernel)
    (by simp) (endsIn_iff.2 (by decide +kernel))
  have understood : (Bytes.ofString "Chunked").sameName (.ofString "chunked") = true := by
    decide +kernel
  rw [if_pos understood] at chunked
  have declared := ((uncoded repeatedLengths (by decide +kernel)).2.1 5).2
    ⟨by decide +kernel, by decide +kernel⟩
  exact ⟨chunked, declared, others _ _ (by decide +kernel) (.inl (by decide +kernel)),
    joined _ _ joinedCoding (by decide +kernel) (by decide +kernel) (by decide +kernel),
    ordered _ _ (by decide +kernel) (by decide +kernel) fun value => by
      simp [lengths, List.filter_append, List.filter_reverse]⟩

end TunnelBench.Framing
