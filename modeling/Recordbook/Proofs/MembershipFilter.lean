import Recordbook.Proofs.FilterAnswer

/-!
# Filters by membership

Where there are memberships, a company and a role under the reserved names become one clause on the
membership relation, ahead of all other conditions. What is found then has one membership that
carries every key asked for, whatever else the filter says, as long as the clause stays.

The clause stands among the compiled conditions under the name of the relation, and an entry of the
filter under that name is put in its place. A scalar there makes no condition on a relation and
every call fails. A mapping does, and then nothing is left of the clause: the keys could be any
others. A key can also be lost before that, when the name is given once as a text and once as raw
data, which read as the same.

## Main definitions

* `Filter.Overwritten` — a mapping stands under the name of the membership relation
* `Filter.KeepsKeys` — a filter loses none of its keys and none of its clause

## Main results

* `Filter.hasMembership_of_hold` — conditions that still have their clause select members only
* `Filter.compile_overwritten` — a clause that is overwritten has no influence
* `membership_kept_unless_overwritten` — when filters by membership can be relied on
-/

namespace Recordbook

open Criteria

namespace Filter

/-- A mapping stands under the name of the membership relation. -/
def Overwritten (filter : Entries) : Prop :=
  ∃ v, (.str membershipName, v) ∈ filter ∧ v.isMap = true

/-- However a filter is read, the keys that it asks for are still asked for, and nothing is put in
the place of their clause. -/
def KeepsKeys (filters : Entries) : Prop :=
  ∀ given, read filters = .ok given → (∀ a ∈ asked filters, a ∈ asked given) ∧ ¬ Overwritten given

/-! ### The clause among the conditions -/

/-- A condition that is made of something else than a mapping is that itself. -/
theorem eq_of_compileEntry {key v condition : Value} (h : compileEntry key v = .ok (some condition))
    (plain : v.isMap = false) : condition = v := by
  cases hs : isScalar v with
  | true =>
    unfold compileEntry at h
    rw [if_pos hs] at h
    cases h
    rfl
  | false =>
    cases v with
    | map entries => cases plain
    | _ => simp [compileEntry, hs] at h

/-- What stands under a name once entries were compiled onto conditions: what stood there before, or
no mapping, unless an entry has a mapping under that name. -/
theorem get?_compileEntries {name : String} {es done compiled : Entries}
    (h : compileEntries done es = .ok compiled)
    (plain : ∀ v, (.str name, v) ∈ es → v.isMap = false) :
    compiled.get? name = done.get? name ∨ ∃ w, compiled.get? name = some w ∧ w.isMap = false := by
  induction es generalizing done with
  | nil =>
    cases h
    exact .inl rfl
  | cons e es ih =>
    obtain ⟨key, v⟩ := e
    rw [compileEntries] at h
    obtain ⟨condition, hc, h⟩ := bind_eq_ok.mp h
    have later := ih h fun w hw => plain w (List.mem_cons_of_mem _ hw)
    cases condition with
    | none => exact later
    | some w =>
      simp only [Entries.get?_put] at later
      cases hk : key.isText name with
      | false => simpa [hk] using later
      | true =>
        rw [Value.isText_iff] at hk
        subst hk
        have same := plain v List.mem_cons_self
        rw [eq_of_compileEntry hc same] at later
        rcases later with later | later
        · exact .inr ⟨v, by simpa using later, same⟩
        · exact .inr later

theorem mem_membershipEntries {given : Entries} {a : Field × Value} (h : a ∈ asked given) :
    (.str a.1.label, a.2) ∈ membershipEntries given := by
  obtain ⟨hf, hv, u, hu⟩ := mem_asked.mp h
  have name : a.1.label ∈ reservedNames := List.mem_map.mpr ⟨a.1, hf, rfl⟩
  refine List.mem_filterMap.mpr ⟨a.1.label, name, ?_⟩
  rw [Entries.getD, hv, hu]
  rfl

/-- The name of the relation is not a reserved one. -/
theorem mem_ordinaryEntries {given : Entries} {v : Value} :
    (.str membershipName, v) ∈ ordinaryEntries given ↔ (.str membershipName, v) ∈ given := by
  simp [ordinaryEntries, reservedNames, Entries.erase, membershipName]

/-- A filter that asks for keys is compiled onto their clause. -/
theorem compile_of_asked {given : Entries} (asks : asked given ≠ []) :
    compile ⟨membershipName, true⟩ given =
      compileEntries [(.str membershipName, .map [(.str "some", .map (membershipEntries given))])]
        (ordinaryEntries given) := by
  obtain ⟨a, ha⟩ := List.exists_mem_of_ne_nil _ asks
  have clause : (membershipEntries given).isEmpty = false :=
    List.isEmpty_eq_false_iff_exists_mem.mpr ⟨_, mem_membershipEntries ha⟩
  rw [compile, clause]
  rfl

variable {s : Store} {e : Entity}

/-- Records that meet conditions with the membership clause among them have a membership that
carries every key asked for. -/
theorem hasMembership_of_clause {r : Relation} {given filter : Entries}
    {criteria : List (Criterion Operand)} {bound : List (Criterion Datum)} {row : Row}
    (hr : e.relation? membershipName = some r) (hc : resolve e filter = .ok criteria)
    (hb : Criteria.bind criteria = .ok bound)
    (clause : (.str membershipName, .map [(.str "some", .map (membershipEntries given))]) ∈ filter)
    (h : hold s row bound = true) : hasMembership s e given row = true := by
  obtain ⟨as, bs, ha, hbs, holds⟩ := hold_of_mem hc hb clause
  obtain ⟨inner, hi, rfl⟩ := (ofEntry_some_ok hr).mp ha
  obtain ⟨ds, hd, rfl⟩ := bind_related_ok.mp hbs
  have found := holds row h
  rw [hold_cons, hold_nil, Bool.and_true, Criteria.holds, beq_true, List.any_eq_true] at found
  obtain ⟨membership, hm, carries⟩ := found
  rw [hasMembership, hr, Bool.or_eq_true, List.any_eq_true]
  refine .inr ⟨membership, hm, List.all_eq_true.mpr fun a ha => ?_⟩
  obtain ⟨hf, -, u, hu⟩ := mem_asked.mp ha
  rw [target_of_membershipName hr] at hi
  have entry := mem_membershipEntries ha
  rw [hu] at entry ⊢
  exact (means_key hf u).of_mem hi hd entry carries

/-- **Conditions that keep their clause.** Records that meet the conditions compiled from a filter
have a membership that carries every key asked for, unless the clause is overwritten. -/
theorem hasMembership_of_hold {r : Relation} {given filter : Entries}
    {criteria : List (Criterion Operand)} {bound : List (Criterion Datum)} {row : Row}
    (hr : e.relation? membershipName = some r)
    (compiled : compile ⟨membershipName, true⟩ given = .ok filter) (kept : ¬ Overwritten given)
    (hc : resolve e filter = .ok criteria) (hb : Criteria.bind criteria = .ok bound)
    (h : hold s row bound = true) : hasMembership s e given row = true := by
  by_cases asks : asked given = []
  · simp [hasMembership, hr, asks]
  · rw [compile_of_asked asks] at compiled
    have plain : ∀ v, (.str membershipName, v) ∈ ordinaryEntries given → v.isMap = false := by
      intro v hv
      rw [Bool.eq_false_iff]
      exact fun isMap => kept ⟨v, mem_ordinaryEntries.mp hv, isMap⟩
    rcases get?_compileEntries compiled plain with same | ⟨w, hw, scalar⟩
    · have clause := same.trans (Entries.get?_cons ..)
      rw [if_pos (by simp)] at clause
      exact hasMembership_of_clause hr hc hb (Entries.mem_of_get? clause) h
    · obtain ⟨as, -, ha, -⟩ := hold_of_mem (s := s) hc hb (Entries.mem_of_get? hw)
      rw [isMap_of_ofEntry hr ha] at scalar
      cases scalar

/-! ### What is left of an overwritten clause -/

/-- A mapping is a condition if it is compiled at all. -/
theorem isSome_of_compileEntry {key v : Value} {condition : Option Value} (isMap : v.isMap = true)
    (h : compileEntry key v = .ok condition) : condition.isSome = true := by
  cases v with
  | map entries =>
    simp only [compileEntry, isScalar, Bool.false_eq_true, if_false] at h
    split at h
    · cases h
      rfl
    · cases h
  | _ => cases isMap

/-- Where entries have a mapping under a name, what stood under it first makes no difference. -/
theorem compileEntries_overwritten {name : String} (x y : Value) {es others : Entries}
    (h : ∃ v, (.str name, v) ∈ es ∧ v.isMap = true) :
    compileEntries ((.str name, x) :: others) es =
      compileEntries ((.str name, y) :: others) es := by
  induction es generalizing others with
  | nil =>
    obtain ⟨v, hv, -⟩ := h
    cases hv
  | cons e es ih =>
    obtain ⟨key, w⟩ := e
    obtain ⟨v, hv, isMap⟩ := h
    simp only [compileEntries]
    cases hc : compileEntry key w with
    | error f => rfl
    | ok condition =>
      cases condition with
      | none =>
        refine ih ⟨v, ?_, isMap⟩
        rcases List.mem_cons.mp hv with here | later
        · cases here
          cases isSome_of_compileEntry isMap hc
        · exact later
      | some w' =>
        change compileEntries (Entries.put ..) es = compileEntries (Entries.put ..) es
        rw [Entries.put, Entries.put]
        by_cases same : (Value.str name).same key = true
        · rw [if_pos same, if_pos same]
        · rw [if_neg same, if_neg same]
          refine ih ⟨v, ?_, isMap⟩
          rcases List.mem_cons.mp hv with here | later
          · cases here
            exact absurd (by simp) same
          · exact later

/-- **Conditions that lose their clause.** Two filters that ask for keys, but differ in nothing else
and have a mapping under the name of the relation, are compiled alike. -/
theorem compile_overwritten {given others : Entries} (asks : asked given ≠ [])
    (asks' : asked others ≠ []) (same : ordinaryEntries given = ordinaryEntries others)
    (overwritten : Overwritten given) :
    compile ⟨membershipName, true⟩ given = compile ⟨membershipName, true⟩ others := by
  rw [compile_of_asked asks, compile_of_asked asks', ← same]
  obtain ⟨v, hv, isMap⟩ := overwritten
  exact compileEntries_overwritten _ _ ⟨v, mem_ordinaryEntries.mpr hv, isMap⟩

/-! ### Filters that keep their keys -/

variable {given : Entries} {row : Row}

/-- Fewer keys are asked for at most where the rest is the same. -/
theorem hasMembership_of_asked_subset {filter : Entries} (h : ∀ a ∈ asked filter, a ∈ asked given)
    (found : hasMembership s e given row = true) : hasMembership s e filter row = true := by
  simp only [hasMembership] at found ⊢
  cases hr : e.relation? membershipName with
  | none => rfl
  | some r =>
    simp only [hr, Bool.or_eq_true, List.isEmpty_iff, List.any_eq_true, List.all_eq_true] at found ⊢
    rcases found with nothing | ⟨membership, hm, carries⟩
    · exact .inl (List.eq_nil_iff_forall_not_mem.mpr fun a ha => by simpa [nothing] using h a ha)
    · exact .inr ⟨membership, hm, fun a ha => carries a (h a ha)⟩

/-- A filter that gives distinct texts as names keeps its keys, unless more than a scalar stands
under the name of the relation. -/
theorem keepsKeys_named (filter : List (String × Value)) (distinct : (filter.map Prod.fst).Nodup)
    (scalar : ∀ v, (membershipName, v) ∈ filter → isScalar v = true) :
    KeepsKeys (Entries.named filter) := by
  intro given h
  rw [read, unfolded_named] at h
  have names : ((Entries.mapValues (Value.replaceReferences (Value.unfoldPlace timesFollowed)
      [Entries.named filter]) filter).map Prod.fst).Nodup := by
    rw [Entries.mapValues, List.map_map]
    exact distinct
  rw [textMapping_named _ names] at h
  cases h
  constructor
  · intro a ha
    obtain ⟨hf, hv, u, hu⟩ := mem_asked.mp ha
    refine mem_asked.mpr ⟨hf, ?_, u, hu⟩
    rw [Entries.get?_named] at hv ⊢
    rw [Entries.lookup_mapValues, hv, hu]
    exact congrArg some (Value.replaceReferences_of_isScalar rfl)
  · rintro ⟨v, hv, isMap⟩
    obtain ⟨g, hg, he⟩ := List.mem_map.mp hv
    obtain ⟨⟨name, w⟩, hw, rfl⟩ := List.mem_map.mp hg
    cases he
    have plain := scalar w hw
    rw [Value.replaceReferences_of_isScalar plain] at isMap
    cases w <;> simp_all [isScalar, Value.isMap]

end Filter

/-- **A membership that is asked for can be relied on, unless its clause is overwritten.** However
the records of a filter are looked for, all that are found or counted have one membership that
carries every key asked for, if the filter keeps its keys. Where their clause is overwritten the
keys have no influence, and any others have the same replies. So have filters that read alike,
whatever was asked for before. -/
theorem membership_kept_unless_overwritten (c : Context) (s : Session) (e : Entity)
    (relation : c.settings.membershipRelation = Filter.membershipName)
    (memberships : (e.relation? Filter.membershipName).isSome = true)
    (filters order tree page perPage) :
    (Filter.KeepsKeys filters →
      ∀ reply ∈ (Repository.standard c.settings e).replies c s filters order tree page perPage,
        ∃ rows, reply.output.About e rows ∧ rows.Subperm (s.working.rows e) ∧
          ∀ row ∈ rows, Filter.hasMembership s.working e filters row = true) ∧
    (∀ given others given', Filter.read filters = .ok given → Filter.read others = .ok given' →
      Filter.asked given ≠ [] → Filter.asked given' ≠ [] →
      Filter.ordinaryEntries given = Filter.ordinaryEntries given' → Filter.Overwritten given →
      (Repository.standard c.settings e).replies c s filters order tree page perPage =
        (Repository.standard c.settings e).replies c s others order tree page perPage) ∧
    ∀ given others, Filter.read filters = .ok given → Filter.read others = .ok given →
      (Repository.standard c.settings e).replies c s filters order tree page perPage =
        (Repository.standard c.settings e).replies c s others order tree page perPage := by
  have membership : (Repository.standard c.settings e).membership =
      ⟨Filter.membershipName, true⟩ := by
    rw [← relation, ← memberships, ← relation]
    rfl
  obtain ⟨r, hr⟩ := Option.isSome_iff_exists.mp memberships
  refine ⟨?_, ?_, ?_⟩
  · intro keeps reply hreply
    obtain ⟨rows, about, some, selected⟩ :=
      Repository.about_selected order tree page perPage reply hreply
    refine ⟨rows, about, some, fun row hrow => ?_⟩
    obtain ⟨-, given, filter, criteria, bound, read, compiled, hc, hb, hold⟩ := selected row hrow
    rw [membership] at compiled
    obtain ⟨asked, kept⟩ := keeps given read
    exact Filter.hasMembership_of_asked_subset asked
      (Filter.hasMembership_of_hold hr compiled kept hc hb hold)
  · intro given others given' read read' asks asks' same overwritten
    refine Repository.replies_congr read read' ?_ order tree page perPage
    rw [membership]
    exact Filter.compile_overwritten asks asks' same overwritten
  · intro given others read read'
    exact Repository.replies_congr read read' rfl order tree page perPage

/-- Two users of the sample store are members of the second company, and a filter for them finds no
one else. -/
theorem membership_kept_sample :
    let c : Context := Script.context {} 1
    let s := Session.start Sample.store false
    let filter : Entries := [(.str "company_id", .uuid (Uuid.ofNat 0x400080000000000000c2))]
    let r := Repository.standard c.settings .user
    ((s.working.rows .user).filter (Filter.hasMembership s.working .user filter)).length = 2 ∧
      ∀ reply ∈ r.replies c s filter .null .null (.int 1) .null,
        ∃ rows, reply.output.About .user rows ∧ rows.Subperm (s.working.rows .user) ∧
          ∀ row ∈ rows, Filter.hasMembership s.working .user filter row = true := by
  intro c s filter r
  have keeps : Filter.KeepsKeys filter := by
    refine Filter.keepsKeys_named [("company_id", _)] (by decide) fun v hv => ?_
    simp [Filter.membershipName] at hv
  have kept :=
    membership_kept_unless_overwritten c s .user rfl rfl filter .null .null (.int 1) .null
  exact ⟨by rfl, kept.1 keeps⟩

/-- The same filter with an empty mapping under the name of the relation counts all users there are,
members or not. -/
theorem membership_overwritten_sample :
    let c : Context := Script.context {} 1
    let s := Session.start Sample.store false
    let filter : Entries := [(.str "company_id", .uuid (Uuid.ofNat 0x400080000000000000c2)),
      (.str "user_company_roles", .map [])]
    let reply := ((Repository.standard c.settings .user).count c s (.map filter)).1
    reply = Envelope.success (.number 5) 200 ∧
      ¬ ∃ rows, reply.output.About .user rows ∧ rows.Subperm (s.working.rows .user) ∧
          ∀ row ∈ rows, Filter.hasMembership s.working .user filter row = true := by
  intro c s filter reply
  have counted : (Repository.standard c.settings .user).counted c s (.map filter) =
      .ok (Envelope.success (.number 5) 200) := by
    refine bind_eq_ok.mpr ⟨⟨[(.str "user_company_roles", .map [])], [], none⟩, rfl, ?_⟩
    refine bind_eq_ok.mpr ⟨_, rfl, bind_eq_ok.mpr ⟨(), rfl, bind_eq_ok.mpr ⟨5, ?_, rfl⟩⟩⟩
    refine bind_eq_ok.mpr ⟨_, rfl, ?_⟩
    rw [Select.matching, ((Store.scan_perm _ _).filter _).length_eq]
    exact congrArg Except.ok (by rfl)
  have five : reply = Envelope.success (.number 5) 200 := by
    simp only [reply, Repository.count, counted, Repository.report_ok]
  refine ⟨five, ?_⟩
  rintro ⟨rows, about, some, found⟩
  rw [five] at about
  have members : ((s.working.rows .user).filter
      (Filter.hasMembership s.working .user filter)).length = 2 := by rfl
  have few := (some.filter (Filter.hasMembership s.working .user filter)).length_le
  rw [List.filter_eq_self.mpr found, members] at few
  have length : (5 : Int) = rows.length := about.eq_length
  omega

end Recordbook
