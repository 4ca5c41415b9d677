import Recordbook.Proofs.Pages
import Recordbook.Proofs.Scope
import Recordbook.Proofs.SortedRows

/-!
# The pages of a company's users

A company's users are fetched in pages. The query asks for a membership in the company, and asks the
same membership to be active: the second condition is put into the clause that the first one makes.
A second clause would let an active membership elsewhere make up for an inactive one here.

A clause selects a user or does not, however many memberships meet it. So the pages together list
each active member once, the newest first.

## Main definitions

* `Store.IsActiveMember` — a user has an active membership in a company

## Main results

* `Repository.activeMembers_uuid`, `Filter.means_activeClause` — the query and what it means
* `company_pages_list_members` — the pages of a company list its active members
-/

namespace Recordbook

/-- A user has a membership in the company with a key, and that membership is active. -/
def Store.IsActiveMember (s : Store) (u : Uuid) (user : Row) : Prop :=
  ∃ link ∈ s.rows .membership, link.cell .userId = user.id ∧ link.cell .companyId = .key u ∧
    link.cell .isActive = .flag true

/-- Records that are loaded without their relations are shown plain. -/
theorem LoadPlan.present_bare (s : Store) (e : Entity) (rows : List Row) :
    present s e (.whole []) rows = rows.map (plain e) := by
  rw [present]
  refine List.map_congr_left fun row hrow => ?_
  rw [view, shownColumns_present s e [] hrow, viewAlong, plain]

/-! ### The query -/

namespace Filter

open Criteria

/-- The clause that some membership in a company is active means that there is one membership with
both properties. -/
theorem means_activeClause {s : Store} (u : Uuid) {r : Relation}
    (hr : Entity.user.relation? membershipName = some r) :
    Means s .user (activeClause (.uuid u)) fun user => (s.related r user).any fun link =>
      (link.cell .companyId).equals (.uuid u) && (link.cell .isActive).equals (.bool true) := by
  have flag : Means s .membership [(.str "is_active", .bool true)] fun link =>
      (link.cell .isActive).equals (.bool true) := by
    obtain ⟨ds, hd, hold⟩ :=
      ask_equality (c := ⟨.isActive, .flag, false, some (.flag true)⟩) (v := .bool true) (.inr rfl)
    exact Means.singleton (ofEntry_column rfl) hd (hold s)
  refine means_some hr ((target_of_membershipName hr).symm ▸ ?_)
  exact (means_key List.mem_cons_self u).append flag

/-- So it selects the active members of the company. -/
theorem related_any_iff {s : Store} (keyed : s.Keyed) (typed : s.Typed) {u : Uuid} {r : Relation}
    (hr : Entity.user.relation? membershipName = some r) {user : Row}
    (present : user ∈ s.rows .user) :
    ((s.related r user).any fun link => (link.cell .companyId).equals (.uuid u) &&
      (link.cell .isActive).equals (.bool true)) = true ↔ s.IsActiveMember u user := by
  obtain ⟨w, hw⟩ := (keyed.rows .user).key user present
  have key {field : Field} (h : field ∈ [Field.userId, Field.companyId]) {link : Row}
      (hl : link ∈ s.rows .membership) (v : Uuid) :
      (link.cell field).equals (.uuid v) = true ↔ link.cell field = .key v := by
    have column : ∀ f ∈ [Field.userId, Field.companyId],
        ⟨f, .uuid, false, none⟩ ∈ Entity.membership.columns := by decide
    exact (keyed.references .membership link hl _ (column field h) rfl).equals_iff
  have flag {link : Row} (hl : link ∈ s.rows .membership) :
      (link.cell .isActive).equals (.bool true) = true ↔ link.cell .isActive = .flag true := by
    have kind := typed .membership link hl ⟨.isActive, .flag, false, some (.flag true)⟩ (by decide)
    generalize link.cell .isActive = cell at kind
    cases cell with
    | flag b => simp
    | empty => simp [Cell.equals, Value.isNull]
    | _ => cases kind
  rw [List.any_eq_true, Store.IsActiveMember, hw]
  refine exists_congr fun link => ?_
  rw [keyed.mem_related_user hr hw, Bool.and_eq_true, and_assoc]
  refine and_congr_right fun hl => ?_
  rw [key (by decide) hl, key (by decide) hl, flag hl]

end Filter

namespace Repository

variable {c : Context}

/-- The query for the active members of a company. -/
theorem activeMembers_uuid (relation : c.settings.membershipRelation = Filter.membershipName)
    (u : Uuid) :
    (standard c.settings .user).activeMembers c (.uuid u) =
      .ok ⟨Filter.activeClause (.uuid u), [(.str "created_at", .descending)], none⟩ := by
  have reserved : Field.companyId ∈ [Field.companyId, Field.roleId] := List.mem_cons_self
  have conditions := (Filter.OverKeys.key u).conditions?_users relation reserved
  have compiled : (standard c.settings .user).compile c.settings
      (.map [(.str "company_id", .uuid u)]) newestFirst .null =
        .ok ⟨Filter.clause .companyId (.uuid u), [(.str "created_at", .descending)], none⟩ :=
    compile_eq_ok.mpr ⟨conditions, rfl, rfl⟩
  have active : activeOnly (standard c.settings .user).membership.relation
      (Filter.clause .companyId (.uuid u)) = .ok (Filter.activeClause (.uuid u)) := by
    rw [Filter.membership_users relation]
    exact Filter.activeOnly_clause (.uuid u)
  exact bind_eq_ok.mpr ⟨_, compiled, bind_eq_ok.mpr ⟨_, active, rfl⟩⟩

end Repository

/-- **The pages of a company list its active members**, each once and the newest first, and every
page gives their number as the total. A user is listed for an active membership in this company
alone. The table has fewer than `2 ^ 53` users, and pages are no longer than that. -/
theorem company_pages_list_members (c : Context) (s : Session) (u : Uuid) (perPage : Nat)
    (relation : c.settings.membershipRelation = Filter.membershipName) (active : s.isActive = true)
    (keyed : s.working.Keyed) (typed : s.working.Typed)
    (few : (s.working.rows .user).length < 2 ^ 53) (positive : 1 ≤ perPage)
    (small : perPage < 2 ^ 53) :
    ∃ (members : List Row) (pages : Nat) (items : Int → List Loaded),
      (∀ page : Int, page ≤ pages ∨ (page - 1) * perPage < 2 ^ 63 →
        ((Repository.standard c.settings .user).getByCompany c s (.uuid u) (.int page)
          (.int perPage)).1 =
            Envelope.success (.page ⟨items page, members.length, page, perPage, pages⟩) 200) ∧
      ((List.range pages).flatMap fun i : Nat => items (i + 1)) =
        members.map (LoadPlan.plain .user) ∧
      (∀ user, user ∈ members ↔
        user ∈ s.working.rows .user ∧ s.working.IsActiveMember u user) ∧
      (members.map Row.id).Nodup ∧
      members.Pairwise fun a b => ¬ Cell.Below (a.cell .createdAt) (b.cell .createdAt) := by
  obtain ⟨r, hr, -⟩ := Filter.exists_membershipRelation
  obtain ⟨criteria, bound, hc, hd, holds⟩ := Filter.means_activeClause (s := s.working) u hr
  let order : List (Field × Value) := [(.createdAt, .str "desc")]
  let members := Select.rows s.working .user bound (Order.sortKeys order)
  have build : Select.build .user
      ⟨Filter.activeClause (.uuid u), [(.str "created_at", .descending)], none⟩ =
        .ok ⟨.user, criteria, Order.sortKeys order, .whole []⟩ := by
    exact bind_eq_ok.mpr ⟨criteria, hc, bind_eq_ok.mpr ⟨_, rfl, bind_eq_ok.mpr ⟨_, rfl, rfl⟩⟩⟩
  have query := Repository.activeMembers_uuid relation u
  refine ⟨members, ceilDiv members.length perPage,
    fun page => (Page.part perPage members page).map (LoadPlan.plain .user), ?_, ?_, ?_, ?_, ?_⟩
  · intro page reached
    have paged := Repository.paged_of_reached (r := .standard c.settings .user) (c := c) active few
      positive small build hd reached
    rw [LoadPlan.present_bare] at paged
    exact Repository.report_of_ok (bind_eq_ok.mpr ⟨_, query, paged⟩)
  · simp only [Page.part_succ]
    rw [← List.map_flatMap, flatMap_pages positive]
  · intro user
    rw [Select.mem_rows, holds user]
    exact and_congr_right fun present => Filter.related_any_iff keyed typed hr present
  · exact (keyed.rows .user).distinct_of_subperm (Select.rows_subperm ..)
  · have columns : ∀ g ∈ order, ∃ c ∈ Entity.user.columns, c.field = g.1 := by decide
    refine (Select.pairwise_rows (typed .user) columns bound).imp fun sorted older => sorted ?_
    exact .first (.inl ⟨⟨_, rfl, rfl⟩, older⟩)

/-- The users of a company of the sample store, one on a page. One user is an inactive member of it
and an active one of another. -/
theorem company_pages_list_members_sample :
    let c : Context := Script.context {} 1
    let s := Session.start Sample.store false
    let u := Uuid.ofNat 0x400080000000000000c1
    c.settings.membershipRelation = Filter.membershipName ∧ s.isActive = true ∧
      s.working.Keyed ∧ s.working.Typed ∧ (s.working.rows .user).length = 5 ∧
      ∃ (members : List Row) (pages : Nat) (items : Int → List Loaded),
        (∀ page : Int, page ≤ pages ∨ (page - 1) * (1 : Nat) < 2 ^ 63 →
          ((Repository.standard c.settings .user).getByCompany c s (.uuid u) (.int page)
            (.int (1 : Nat))).1 =
              Envelope.success (.page ⟨items page, members.length, page, (1 : Nat), pages⟩) 200) ∧
        ((List.range pages).flatMap fun i : Nat => items (i + 1)) =
          members.map (LoadPlan.plain .user) ∧
        (∀ user, user ∈ members ↔
          user ∈ s.working.rows .user ∧ s.working.IsActiveMember u user) ∧
        (members.map Row.id).Nodup ∧
        members.Pairwise fun a b => ¬ Cell.Below (a.cell .createdAt) (b.cell .createdAt) := by
  intro c s u
  exact ⟨rfl, rfl, Sample.keyed_store, Sample.typed_store, rfl,
    company_pages_list_members c s u 1 rfl rfl Sample.keyed_store Sample.typed_store (by decide)
      (by decide) (by decide)⟩

end Recordbook
