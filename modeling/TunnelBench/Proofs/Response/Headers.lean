import TunnelBench.Proofs.Response.Settings

/-!
# Headers by name

The headers of a response are a map from names to values that ignores the case of ASCII letters and
keeps an order. A name is stored as it was spelled when it was first set, and stays in its place;
what is stored with it is the value that was set last. Names that differ otherwise do not touch each
other. The lines of a written response are the stored headers in their order.
-/
namespace TunnelBench.Response

/-- Two names that differ at most in the case of ASCII letters. -/
def alike (left right : String) : Bool := left.toLower == right.toLower

/-- Two header names are one where they are alike. -/
theorem sameHeader_eq_alike (left right : String) : sameHeader left right = alike left right := by
  rw [sameHeader, Bytes.sameName, Bytes.lower_ofString, Bytes.lower_ofString, Bool.eq_iff_iff,
    beq_iff_eq, alike, beq_iff_eq]
  exact Utf8.ofString_inj

/-- Names are alike where their small letters are the same. -/
theorem alike_iff {left right : String} : alike left right = true ↔ left.toLower = right.toLower :=
  beq_iff_eq

/-- Alike names are alike to the same names. -/
theorem alike_congr {left right : String} (same : alike left right = true) (other : String) :
    alike left other = alike right other := by
  rw [alike, alike_iff.1 same]
  rfl

/-- A name is alike to itself. -/
theorem alike_self (name : String) : alike name name = true := alike_iff.2 rfl

/-- A name is alike to another in both orders. -/
theorem alike_comm (left right : String) : alike left right = alike right left := by
  rw [Bool.eq_iff_iff, alike_iff, alike_iff]
  exact eq_comm

/-- The value that is stored for a name. -/
def value? (name : String) (headers : List (String × String)) : Option String :=
  (headers.find? fun header => alike header.1 name).map Prod.snd

/-- The value that is set last for a name. -/
def lastValue? (name : String) (calls : List (String × String)) : Option String :=
  ((calls.filter fun call => alike call.1 name).getLast?).map Prod.snd

/-- Headers that store what some calls have set: no two names are alike, the names are the first
spellings in the order of their first use, and the values are those that were set last. -/
structure Stores (calls headers : List (String × String)) : Prop where
  apart : (headers.map Prod.fst).Pairwise fun first later => alike first later = false
  spellings : headers.map Prod.fst = (calls.map Prod.fst).eraseDupsBy alike
  values : ∀ name, value? name headers = lastValue? name calls

/-- A name that is set stays where it is stored, or comes last. -/
theorem names_setHeader (name value : String) (headers : List (String × String)) :
    (setHeader name value headers).map Prod.fst = headers.map Prod.fst ++
      if (headers.map Prod.fst).any (alike · name) then [] else [name] := by
  induction headers with
  | nil => rfl
  | cons header rest ih =>
    obtain ⟨present, old⟩ := header
    rw [setHeader, sameHeader_eq_alike]
    by_cases same : alike present name = true
    · rw [if_pos same, List.map_cons, List.map_cons, List.any_cons, same, Bool.true_or]
      exact (List.append_nil _).symm
    · rw [if_neg same, List.map_cons, List.map_cons, ih, List.any_cons, Bool.eq_false_iff.2 same,
        Bool.false_or, List.cons_append]

/-- The value that is set is stored for every name alike, and for no other. -/
theorem value?_setHeader (name value other : String) (headers : List (String × String)) :
    value? other (setHeader name value headers) =
      if alike name other then some value else value? other headers := by
  induction headers with
  | nil =>
    simp only [setHeader, value?, List.find?_cons, List.find?_nil]
    cases alike name other <;> rfl
  | cons header rest ih =>
    obtain ⟨present, old⟩ := header
    rw [setHeader, sameHeader_eq_alike]
    by_cases same : alike present name = true
    · have both := alike_congr same other
      rw [if_pos same]
      simp only [value?, List.find?_cons, both]
      cases alike name other <;> rfl
    · rw [if_neg same]
      simp only [value?, List.find?_cons] at ih ⊢
      cases found : alike present other with
      | false => exact ih
      | true =>
        -- A name that is alike to both would make them alike.
        have apart : ¬alike name other = true := by
          intro also
          rw [alike_iff] at same found also
          exact same (found.trans also.symm)
        rw [if_neg apart]

/-- A name that is used behind others is a first use unless it is alike to one of them. -/
theorem eraseDupsBy_concat (names : List String) (name : String) :
    (names ++ [name]).eraseDupsBy alike = names.eraseDupsBy alike ++
      if names.any (alike · name) then [] else [name] := by
  match names with
  | [] => rfl
  | first :: later =>
    rw [List.cons_append, List.eraseDupsBy_cons, List.filter_append, List.eraseDupsBy_cons,
      List.any_cons]
    cases again : alike first name with
    | true =>
      have dropped : [name].filter (fun other => alike other first = false) = [] := by
        rw [alike_comm] at again
        simp [again]
      rw [dropped, List.append_nil, Bool.true_or]
      exact (List.append_nil _).symm
    | false =>
      have kept : [name].filter (fun other => alike other first = false) = [name] := by
        rw [alike_comm] at again
        simp [again]
      -- What is alike to the name is not alike to the first one, and so it was kept.
      have others : (later.filter fun other => alike other first = false).any (alike · name) =
          later.any (alike · name) := by
        rw [List.any_filter]
        congr 1
        funext other
        cases found : alike other name with
        | false => rw [Bool.and_false]
        | true =>
          rw [alike_congr found, alike_comm, again]
          rfl
      rw [kept, eraseDupsBy_concat, others, Bool.false_or, List.cons_append]
termination_by names.length
decreasing_by
  rw [List.length_cons, Nat.lt_succ_iff]
  exact List.length_filter_le _ _

/-- A value is stored for the names that are alike to a stored one. -/
theorem isSome_value? (name : String) (headers : List (String × String)) :
    (value? name headers).isSome = (headers.map Prod.fst).any (alike · name) := by
  rw [value?, Option.isSome_map, List.isSome_find?, List.any_map]
  rfl

/-- A value is set for the names that are alike to one of those that are set. -/
theorem isSome_lastValue? (name : String) (calls : List (String × String)) :
    (lastValue? name calls).isSome = (calls.map Prod.fst).any (alike · name) := by
  rw [lastValue?, List.getLast?_filter, Option.isSome_map, List.isSome_find?, List.any_reverse,
    List.any_map]
  rfl

/-- The value that is set behind others is the last one for all alike names. -/
theorem lastValue?_concat (name value other : String) (calls : List (String × String)) :
    lastValue? other (calls ++ [(name, value)]) =
      if alike name other then some value else lastValue? other calls := by
  rw [lastValue?, lastValue?, List.filter_append, List.getLast?_append, List.filter_cons,
    List.filter_nil]
  cases alike name other <;> rfl

/-- Nothing is stored before anything is set. -/
theorem stores_nil : Stores [] [] := ⟨List.Pairwise.nil, rfl, fun _ => rfl⟩

/-- Setting a header keeps the names apart and in their order, and the values up to date. -/
theorem Stores.setHeader {calls headers : List (String × String)} (stores : Stores calls headers)
    (name value : String) :
    Stores (calls ++ [(name, value)]) (setHeader name value headers) := by
  have names := names_setHeader name value headers
  have used : (headers.map Prod.fst).any (alike · name) =
      (calls.map Prod.fst).any (alike · name) := by
    rw [← isSome_value?, ← isSome_lastValue?, stores.values]
  refine ⟨?_, ?_, ?_⟩
  · rw [names, List.pairwise_append]
    refine ⟨stores.apart, ?_, ?_⟩
    · split
      · exact List.Pairwise.nil
      · exact List.pairwise_singleton _ _
    · intro present stored later added
      split at added
      · contradiction
      · rename_i new
        rw [List.mem_singleton] at added
        rw [added, Bool.eq_false_iff]
        intro same
        exact new (List.any_eq_true.2 ⟨present, stored, same⟩)
  · rw [names, List.map_append, List.map_singleton, eraseDupsBy_concat, ← stores.spellings, used]
  · intro other
    rw [value?_setHeader, lastValue?_concat, stores.values]

/-- The headers of a response store what was set, whatever else was said. -/
theorem stores_described (status : Status) (settings : List Setting) :
    Stores (headerCalls settings) (described status settings).headers := by
  rw [headers_described]
  induction headerCalls settings using List.reverseRecOn with
  | nil => exact stores_nil
  | append_singleton calls call ih =>
    rw [List.foldl_append]
    exact ih.setHeader call.1 call.2

/-- What is stored with a name is the value for it, because no other stored name is alike. -/
theorem value?_of_mem {headers : List (String × String)}
    (apart : (headers.map Prod.fst).Pairwise fun first later => alike first later = false)
    {header : String × String} (stored : header ∈ headers) :
    value? header.1 headers = some header.2 := by
  induction headers with
  | nil => contradiction
  | cons first later ih =>
    rw [List.map_cons, List.pairwise_cons] at apart
    rw [List.mem_cons] at stored
    obtain rfl | behind := stored
    · simp only [value?, List.find?_cons, alike_self]
      rfl
    · have other : alike first.1 header.1 = false := apart.1 _ (List.mem_map_of_mem behind)
      simp only [value?, List.find?_cons, other]
      exact ih apart.2 behind

/-- Settings that set no header between two that do leave the calls of these next to each other. -/
theorem headerCalls_around {between : List Setting} (other : headerCalls between = [])
    (before after : List Setting) (name value later last : String) :
    headerCalls (before ++ .header name value :: (between ++ .header later last :: after)) =
      headerCalls before ++ (name, value) :: (later, last) :: headerCalls after := by
  simp only [headerCalls, List.filterMap_append, List.filterMap_cons, Setting.header?] at other ⊢
  rw [other, List.nil_append]

/-- Two calls for names that are not alike can be made in either order. -/
theorem lastValue?_swap {name later : String} (distinct : alike name later = false)
    (before after : List (String × String)) (value last other : String) :
    lastValue? other (before ++ (name, value) :: (later, last) :: after) =
      lastValue? other (before ++ (later, last) :: (name, value) :: after) := by
  have same : ((before ++ (name, value) :: (later, last) :: after).filter
      fun call => alike call.1 other) =
        (before ++ (later, last) :: (name, value) :: after).filter fun call =>
          alike call.1 other := by
    rw [List.filter_append, List.filter_append, List.filter_cons, List.filter_cons,
      List.filter_cons, List.filter_cons]
    -- Only one of the two names can be alike to the other one.
    cases first : alike name other with
    | false => rfl
    | true =>
      have second : alike later other = false := by
        rw [alike_comm, ← alike_congr first, distinct]
      rw [second]
      rfl
  rw [lastValue?, lastValue?, same]

/-- Whatever is said about a response, its headers are a map in the order of insertion that ignores
the case of ASCII letters: no two stored names are alike, the names are the first spellings in the
order of their first use, and with each of them is stored the value that was set last for it. It
does not matter in which order two names that are not alike are set. A response that is written has
exactly these headers in exactly this order for its lines, behind the line of its length if there is
one. -/
theorem headers_of_settings (status : Status) (settings : List Setting) :
    ((described status settings).headers.map Prod.fst).Pairwise
      (fun first later => alike first later = false) ∧
    (described status settings).headers.map Prod.fst =
      ((headerCalls settings).map Prod.fst).eraseDupsBy alike ∧
    (∀ header ∈ (described status settings).headers,
      lastValue? header.1 (headerCalls settings) = some header.2) ∧
    (∀ (before between after : List Setting) (name value later last : String),
      settings = before ++ .header name value :: (between ++ .header later last :: after) →
      headerCalls between = [] → alike name later = false →
      ∀ other, value? other (described status settings).headers = value? other (described status
        (before ++ .header later last :: (between ++ .header name value :: after))).headers) ∧
    ∀ output, (described status settings).render = .ok output →
      ∃ final, (described status settings).settle = .ok final ∧ output = final.statusLine ++
        (final.lengthHeader?.toList.flatMap Written.textLine ++
          ((described status settings).headers.flatMap Written.textLine ++
            (Bytes.lineEnd ++ final.body))) := by
  have stores := stores_described status settings
  refine ⟨stores.apart, stores.spellings, ?_, ?_, ?_⟩
  · intro header stored
    rw [← stores.values]
    exact value?_of_mem stores.apart stored
  · intro before between after name value later last same silent distinct other
    have swapped := stores_described status
      (before ++ .header later last :: (between ++ .header name value :: after))
    rw [stores.values, swapped.values, same, headerCalls_around silent, headerCalls_around silent]
    exact lastValue?_swap distinct _ _ value last other
  · intro output rendered
    obtain ⟨final, settled, writes, bytes⟩ := render_eq_ok rendered
    rw [final.bytes_parts, writes.headers] at bytes
    exact ⟨final, settled, bytes.symm⟩

/-- A description in which names come again in other cases, and names that only look alike. -/
def restless : List Setting :=
  [.header "Content-Type" "text/plain", .length none, .header "É" "1", .reason "Fine",
    .header "é" "2", .body (.ofString "abc"), .header "CONTENT-TYPE" "text/html"]

/-- The headers are stored and written by the first spellings in the order of first use, and the
two letters that are no ASCII letters are kept apart. -/
theorem headers_of_restless :
    (described .ok restless).headers =
        [("Content-Type", "text/html"), ("É", "1"), ("é", "2")] ∧
      lastValue? "Content-Type" (headerCalls restless) = some "text/html" ∧
      alike "É" "é" = false ∧
      (∀ other, value? other (described .ok restless).headers = value? other (described .ok
        [.header "Content-Type" "text/plain", .length none, .header "é" "2", .reason "Fine",
          .header "É" "1", .body (.ofString "abc"),
          .header "CONTENT-TYPE" "text/html"]).headers) ∧
      ∃ output final, (described .ok restless).render = .ok output ∧
        (described .ok restless).settle = .ok final ∧ output = final.statusLine ++
          (final.lengthHeader?.toList.flatMap Written.textLine ++
            ((described .ok restless).headers.flatMap Written.textLine ++
              (Bytes.lineEnd ++ final.body))) := by
  have headers : (described .ok restless).headers =
      [("Content-Type", "text/html"), ("É", "1"), ("é", "2")] := by decide
  have distinct : alike "É" "é" = false := by
    rw [← sameHeader_eq_alike]
    decide
  have rendered : ∃ output, (described .ok restless).render = .ok output := ⟨_, rfl⟩
  obtain ⟨output, rendered⟩ := rendered
  obtain ⟨-, -, last, swap, written⟩ := headers_of_settings .ok restless
  have stored : ("Content-Type", "text/html") ∈ (described .ok restless).headers := by
    rw [headers]
    exact List.mem_cons_self
  have swapped := swap [.header "Content-Type" "text/plain", .length none] [.reason "Fine"]
    [.body (.ofString "abc"), .header "CONTENT-TYPE" "text/html"] "É" "1" "é" "2" rfl rfl distinct
  obtain ⟨final, settled, bytes⟩ := written output rendered
  exact ⟨headers, last _ stored, distinct, swapped, output, final, rendered, settled, bytes⟩

end TunnelBench.Response
