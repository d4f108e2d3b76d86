import Rquic.Common.StrHash
import Rquic.Conn.HeaderFields
import Rquic.Engine.Basic

set_option autoImplicit false

/-!
# The table of connections

The engine finds the connection of a datagram by its destination id. `conns_hash` has an entry for the id that
a connection chose, and on a server one for the id that the client chose first.

* `ConnTable`: the engine, as far as the table is concerned; `connCreateTable`, `serverCreate`,
  `clientConnect`, `connDestroy`, `packetProcess`: what it does to it.
* `Entries`: what the table holds for each id.
* `Routes`: each id has the connections that answer to it, and no other.
* `TableEvent.Fresh`: new handles and new ids are not in use.
* **`connTable_routes`**: behind every run a lookup finds the live connection with the id, and no other.

A handle is the address of a connection. It may be used again when the connection is destroyed. The checks of
the flag of the active queue are left out: a connection in the queue is destroyed later.
-/

namespace Rquic

/-! ## The ids of a connection -/

/-- What the table needs to know about a connection. -/
structure TableConn where
  connType : ConnType
  /-- `scid_set`, in its order. -/
  scids : List Bytes
  originalDcid : Bytes := []

/-- The engine and its connections. -/
structure ConnTable where
  engType : ConnType
  /-- `config->cid_len`. -/
  cidLen : ℕ
  cidNegotiate : Bool
  connsHash : StrHash ConnId
  conns : ConnId → Option TableConn := fun _ => none

section Operations

variable (fuel : ℕ)

/-- `rqc_insert_conns_hash`. -/
def insertConnsHash (h : StrHash ConnId) (conn : ConnId) (data : Bytes)
    (allocator : Allocator (StrHashElement ConnId)) (strMalloc : Bool) : Except Unit (StrHash ConnId) :=
  h.add ⟨siphashGetHash h.siphashCtx data, data, conn⟩ allocator strMalloc

/-- `rqc_find_conns_hash`. -/
def findConnsHash (h : StrHash ConnId) (data : Bytes) : Except Halt (Option ConnId) :=
  h.find fuel (siphashGetHash h.siphashCtx data) data

/-- `rqc_remove_conns_hash`. -/
def removeConnsHash (h : StrHash ConnId) (data : Bytes) : Except Halt (Bool × StrHash ConnId) :=
  h.delete fuel (siphashGetHash h.siphashCtx data) data

/-- `rqc_engine_conns_hash_find`: an empty id is no id. -/
def engineConnsHashFind (h : StrHash ConnId) (cid : Bytes) : Except Halt (Option ConnId) :=
  if cid.length = 0 then .ok none else findConnsHash fuel h cid

/-- One id in `rqc_conn_destroy_cids`: it is removed if it is there, whoever has it. -/
def dropCid (h : StrHash ConnId) (cid : Bytes) : Except Halt (StrHash ConnId) := do
  match ← findConnsHash fuel h cid with
  | none => return h
  | some _ => return (← removeConnsHash fuel h cid).2

/-- `rqc_conn_destroy_cids`, in the table. -/
def connDestroyCids (h : StrHash ConnId) (e : TableConn) : Except Halt (StrHash ConnId) := do
  e.scids.foldlM (dropCid fuel) (← dropCid fuel h e.originalDcid)

/-- `rqc_conn_destroy`. -/
def connDestroy (t : ConnTable) (conn : ConnId) : Except Halt ConnTable :=
  match t.conns conn with
  | none => .ok t
  | some e => do
    return { t with
      connsHash := ← connDestroyCids fuel t.connsHash e
      conns := Function.update t.conns conn none }

/-- What the machine answers while a connection is created: the address of the connection, the id that is
generated for it, the memory for the entries of the table, and whether the rest succeeds. -/
structure CreateEnv where
  conn : ConnId
  generated : Option Bytes
  scidAllocator : Allocator (StrHashElement ConnId)
  scidMalloc : Bool
  pathsOk : Bool
  odcidAllocator : Allocator (StrHashElement ConnId)
  odcidMalloc : Bool
  restOk : Bool

/-- `rqc_conn_create`, from the entry in the table on; with whether there is a connection. -/
def connCreateTable (t : ConnTable) (env : CreateEnv) (connType : ConnType) (scid : Bytes) :
    Except Halt (Bool × ConnTable) :=
  let e : TableConn := { connType := connType, scids := [scid] }
  match insertConnsHash t.connsHash env.conn scid env.scidAllocator env.scidMalloc with
  | .error _ => do return (false, { t with connsHash := ← connDestroyCids fuel t.connsHash e })
  | .ok h =>
    let t : ConnTable := { t with connsHash := h, conns := Function.update t.conns env.conn (some e) }
    if env.pathsOk then .ok (true, t)
    else do return (false, ← connDestroy fuel t env.conn)

/-- The end of a creation: the rest succeeds, or the connection is destroyed. -/
def createEnd (t : ConnTable) (env : CreateEnv) : Except Halt (Option ConnId × ConnTable) :=
  if env.restOk then .ok (some env.conn, t) else do return (none, ← connDestroy fuel t env.conn)

/-- `rqc_conn_server_create`; `scid` is the id that the client chose. -/
def serverCreate (t : ConnTable) (env : CreateEnv) (scid : Bytes) : Except Halt (Option ConnId × ConnTable) :=
  match if t.cidNegotiate = true ∨ scid.length ≠ t.cidLen then env.generated else some scid with
  | none => .ok (none, t)
  | some newScid => do
    match ← connCreateTable fuel t env .server newScid with
    | (false, t) => return (none, t)
    | (true, t) =>
      let e : TableConn := { connType := .server, scids := [newScid], originalDcid := scid }
      let t : ConnTable := { t with conns := Function.update t.conns env.conn (some e) }
      if scid ∈ e.scids then createEnd fuel t env
      else
        match insertConnsHash t.connsHash env.conn scid env.odcidAllocator env.odcidMalloc with
        | .error _ => return (none, ← connDestroy fuel t env.conn)
        | .ok h => createEnd fuel { t with connsHash := h } env

/-- `rqc_client_connect` with the ids that it generated. -/
def clientConnect (t : ConnTable) (env : CreateEnv) (scid dcid : Bytes) :
    Except Halt (Option ConnId × ConnTable) := do
  match ← connCreateTable fuel t env .client scid with
  | (false, t) => return (none, t)
  | (true, t) =>
    let e : TableConn := { connType := .client, scids := [scid], originalDcid := dcid }
    createEnd fuel { t with conns := Function.update t.conns env.conn (some e) } env

/-- The packet has a long header and is an Initial packet. -/
def isInitial (buf : Bytes) : Bool := buf.head?.any fun first => first &&& 0x80 = 0x80 ∧ first &&& 0x30 = 0

/-- `rqc_engine_packet_process`, up to the connection that the packet goes to. -/
def packetProcess (t : ConnTable) (env : CreateEnv) (buf : Bytes) (hasAddrs : Bool) :
    Except Halt (Option ConnId × ConnTable) :=
  match parseCid t.cidLen buf with
  | .error _ => .ok (none, t)
  | .ok (scid, _) => do
    match ← engineConnsHashFind fuel t.connsHash scid with
    | some conn => return (some conn, t)
    | none =>
      if isInitial buf = true ∧ t.engType = .server ∧ hasAddrs = true then serverCreate fuel t env scid
      else return (none, t)

/-- What happens to the table. -/
inductive TableEvent where
  | packet (env : CreateEnv) (buf : Bytes) (hasAddrs : Bool)
  | connect (env : CreateEnv) (scid dcid : Bytes)
  | destroy (conn : ConnId)

/-- One event. -/
def ConnTable.step (t : ConnTable) : TableEvent → Except Halt ConnTable
  | .packet env buf hasAddrs => do return (← packetProcess fuel t env buf hasAddrs).2
  | .connect env scid dcid => do return (← clientConnect fuel t env scid dcid).2
  | .destroy conn => connDestroy fuel t conn

/-- A run. -/
def ConnTable.run (t : ConnTable) (events : List TableEvent) : Except Halt ConnTable :=
  events.foldlM (ConnTable.step fuel) t

end Operations

/-! ## What the table holds -/

section Entries

variable {n fuel : ℕ} {h : StrHash ConnId} {E : Bytes → List ConnId}

/-- For each id the connections that were entered with it, the last one first. -/
structure Entries (n : ℕ) (h : StrHash ConnId) (E : Bytes → List ConnId) : Prop where
  refines : ∃ s, h.Refines n s ∧ ∀ cid, s (siphashGetHash h.siphashCtx cid, cid) = E cid

theorem Entries.mono (hE : Entries n h E) {n' : ℕ} (hn : n ≤ n') : Entries n' h E := by
  obtain ⟨s, hs, heq⟩ := hE.refines
  exact ⟨s, hs.mono hn, heq⟩

theorem Entries.find (hE : Entries n h E) (hfuel : n ≤ fuel) (cid : Bytes) :
    findConnsHash fuel h cid = .ok (E cid).head? := by
  obtain ⟨s, hs, heq⟩ := hE.refines
  unfold findConnsHash
  rw [hs.find hfuel, heq]

theorem Entries.insert (hE : Entries n h E) (conn : ConnId) (cid : Bytes)
    (allocator : Allocator (StrHashElement ConnId)) (strMalloc : Bool) :
    insertConnsHash h conn cid allocator strMalloc = .error () ∨
      ∃ h', insertConnsHash h conn cid allocator strMalloc = .ok h' ∧
        Entries (n + 1) h' (Function.update E cid (conn :: E cid)) := by
  obtain ⟨s, hs, heq⟩ := hE.refines
  unfold insertConnsHash
  rcases hs.add ⟨siphashGetHash h.siphashCtx cid, cid, conn⟩ allocator strMalloc with herr | ⟨h', hok, hctx, hs'⟩
  · exact .inl herr
  · refine .inr ⟨h', hok, _, hs', fun cid' => ?_⟩
    rw [hctx]
    unfold StrHashElement.key
    dsimp only
    by_cases hcid : cid' = cid
    · subst hcid
      rw [Function.update_self, Function.update_self, heq]
    · have hne : (siphashGetHash h.siphashCtx cid', cid') ≠ (siphashGetHash h.siphashCtx cid, cid) :=
        fun hkey => hcid (congrArg Prod.snd hkey)
      rw [Function.update_of_ne hcid, Function.update_of_ne hne, heq]

/-- The last entry of an id is dropped. -/
def dropLast (E : Bytes → List ConnId) (cid : Bytes) : Bytes → List ConnId :=
  Function.update E cid (E cid).tail

theorem Entries.drop (hE : Entries n h E) (hfuel : n ≤ fuel) (cid : Bytes) :
    ∃ h', dropCid fuel h cid = .ok h' ∧ Entries n h' (dropLast E cid) := by
  have hfind := hE.find hfuel cid
  obtain ⟨s, hs, heq⟩ := hE.refines
  unfold dropCid
  rw [hfind]
  cases hcid : E cid with
  | nil =>
      refine ⟨h, rfl, s, hs, fun cid' => ?_⟩
      rw [heq, dropLast, hcid, List.tail_nil, ← hcid, Function.update_eq_self]
  | cons conn conns =>
      obtain ⟨h', hdelete, hctx, hs'⟩ := hs.delete hfuel (siphashGetHash h.siphashCtx cid) cid
      refine ⟨h', ?_, _, hs', fun cid' => ?_⟩
      · change (removeConnsHash fuel h cid >>= fun r => Except.ok r.2) = _
        unfold removeConnsHash
        rw [hdelete]
        rfl
      · rw [hctx, dropLast]
        by_cases hne : cid' = cid
        · subst hne
          rw [Function.update_self, Function.update_self, heq]
        · have hkey : (siphashGetHash h.siphashCtx cid', cid') ≠ (siphashGetHash h.siphashCtx cid, cid) :=
            fun hkey => hne (congrArg Prod.snd hkey)
          rw [Function.update_of_ne hne, Function.update_of_ne hkey, heq]

theorem Entries.dropAll (hE : Entries n h E) (hfuel : n ≤ fuel) (cids : List Bytes) :
    ∃ h', cids.foldlM (dropCid fuel) h = .ok h' ∧ Entries n h' (cids.foldl dropLast E) := by
  induction cids generalizing h E with
  | nil => exact ⟨h, rfl, hE⟩
  | cons cid cids ih =>
      obtain ⟨h₁, heq, hE₁⟩ := hE.drop hfuel cid
      obtain ⟨h', heq', hE'⟩ := ih hE₁
      refine ⟨h', ?_, hE'⟩
      rw [List.foldlM_cons, heq]
      exact heq'

theorem Entries.destroyCids (hE : Entries n h E) (hfuel : n ≤ fuel) (e : TableConn) :
    ∃ h', connDestroyCids fuel h e = .ok h' ∧
      Entries n h' ((e.originalDcid :: e.scids).foldl dropLast E) := by
  obtain ⟨h₁, heq, hE₁⟩ := hE.drop hfuel e.originalDcid
  obtain ⟨h', heq', hE'⟩ := hE₁.dropAll hfuel e.scids
  refine ⟨h', ?_, hE'⟩
  unfold connDestroyCids
  rw [heq]
  exact heq'

/-- Ids with one entry at most have none behind the loop, and the others keep theirs. -/
theorem foldl_dropLast {cids : List Bytes} (honce : ∀ cid ≠ [], (E cid).length ≤ 1) {cid : Bytes}
    (hcid : cid ≠ []) : cids.foldl dropLast E cid = if cid ∈ cids then [] else E cid := by
  induction cids generalizing E with
  | nil => rw [List.foldl_nil, if_neg List.not_mem_nil]
  | cons cid' cids ih =>
      have honce' : ∀ c ≠ [], (dropLast E cid' c).length ≤ 1 := by
        intro c hc
        unfold dropLast
        by_cases heq : c = cid'
        · subst heq
          rw [Function.update_self, List.length_tail]
          exact (Nat.sub_le _ _).trans (honce c hc)
        · rw [Function.update_of_ne heq]
          exact honce c hc
      rw [List.foldl_cons, ih honce']
      unfold dropLast
      by_cases heq : cid = cid'
      · subst heq
        have htail : (E cid).tail = [] := by
          have hlen := honce cid hcid
          refine List.eq_nil_of_length_eq_zero ?_
          rw [List.length_tail]
          omega
        rw [Function.update_self, htail, ite_self, if_pos List.mem_cons_self]
      · rw [Function.update_of_ne heq]
        exact if_congr (by rw [List.mem_cons, or_iff_right heq]) rfl rfl

/-- **A connection is destroyed**: its ids lose their entries. -/
theorem Entries.connDestroy {t : ConnTable} (hE : Entries n t.connsHash E) (hfuel : n ≤ fuel)
    (honce : ∀ cid ≠ [], (E cid).length ≤ 1) {conn : ConnId} {e : TableConn} (he : t.conns conn = some e) :
    ∃ h' E', connDestroy fuel t conn =
        .ok { t with connsHash := h', conns := Function.update t.conns conn none } ∧ Entries n h' E' ∧
      ∀ cid ≠ [], E' cid = if cid ∈ e.originalDcid :: e.scids then [] else E cid := by
  obtain ⟨h', heq, hE'⟩ := hE.destroyCids hfuel e
  refine ⟨h', _, ?_, hE', fun cid hcid => foldl_dropLast honce hcid⟩
  unfold Rquic.connDestroy
  rw [he]
  change (connDestroyCids fuel t.connsHash e >>= fun h => _) = _
  rw [heq]
  rfl

end Entries

/-! ## Connections and their entries -/

/-- The ids under which a connection is entered. -/
def TableConn.keys (e : TableConn) : List Bytes :=
  match e.connType with
  | .server => e.originalDcid :: e.scids
  | .client => e.scids

theorem TableConn.keys_client (scids : List Bytes) (originalDcid : Bytes) :
    ({ connType := .client, scids := scids, originalDcid := originalDcid } : TableConn).keys = scids := rfl

theorem TableConn.keys_server (scids : List Bytes) (originalDcid : Bytes) :
    ({ connType := .server, scids := scids, originalDcid := originalDcid } : TableConn).keys =
      originalDcid :: scids := rfl

theorem TableConn.mem_of_mem_keys {e : TableConn} {cid : Bytes} (h : cid ∈ e.keys) :
    cid ∈ e.originalDcid :: e.scids := by
  unfold TableConn.keys at h
  split at h
  · exact h
  · exact List.mem_cons_of_mem _ h

/-- An id that is not empty is entered for the live connections that answer to it, and that is one at most. -/
structure Routes (E : Bytes → List ConnId) (conns : ConnId → Option TableConn) : Prop where
  mem : ∀ cid ≠ [], ∀ c, c ∈ E cid ↔ ∃ e, conns c = some e ∧ cid ∈ e.keys
  once : ∀ cid ≠ [], (E cid).length ≤ 1

section RoutesLemmas

variable {E E' : Bytes → List ConnId} {conns : ConnId → Option TableConn} {c : ConnId} {e : TableConn}

theorem Routes.congr (h : Routes E conns) (hsame : ∀ cid ≠ [], E' cid = E cid) : Routes E' conns := by
  refine ⟨fun cid hcid => ?_, fun cid hcid => ?_⟩
  · rw [hsame cid hcid]
    exact h.mem cid hcid
  · rw [hsame cid hcid]
    exact h.once cid hcid

theorem Routes.eq_nil (h : Routes E conns) {cid : Bytes} (hcid : cid ≠ [])
    (hnone : ∀ c e, conns c = some e → cid ∉ e.keys) : E cid = [] := by
  refine List.eq_nil_iff_forall_not_mem.2 fun c hc => ?_
  obtain ⟨e, he, hmem⟩ := (h.mem cid hcid c).1 hc
  exact hnone c e he hmem

theorem Routes.unique (h : Routes E conns) {cid : Bytes} (hcid : cid ≠ []) {c' : ConnId} {e' : TableConn}
    (he : conns c = some e) (he' : conns c' = some e') (hmem : cid ∈ e.keys) (hmem' : cid ∈ e'.keys) :
    c = c' := by
  have hc := (h.mem cid hcid c).2 ⟨e, he, hmem⟩
  have hc' := (h.mem cid hcid c').2 ⟨e', he', hmem'⟩
  have hlen := h.once cid hcid
  match hcons : E cid with
  | [] =>
      rw [hcons] at hc
      cases hc
  | [c₀] =>
      rw [hcons] at hc hc'
      exact (List.mem_singleton.1 hc).trans (List.mem_singleton.1 hc').symm
  | _ :: _ :: _ =>
      rw [hcons] at hlen
      exact absurd hlen (by simp)

theorem Routes.added (h : Routes E conns) (hc : conns c = none)
    (hE' : ∀ cid ≠ [], E' cid = if cid ∈ e.keys then [c] else E cid)
    (hfree : ∀ cid ∈ e.keys, cid ≠ [] → E cid = []) : Routes E' (Function.update conns c (some e)) := by
  refine ⟨fun cid hcid c' => ?_, fun cid hcid => ?_⟩
  · rw [hE' cid hcid]
    by_cases hmem : cid ∈ e.keys
    · rw [if_pos hmem, List.mem_singleton]
      constructor
      · rintro rfl
        exact ⟨e, Function.update_self _ _ _, hmem⟩
      · rintro ⟨e', he', hmem'⟩
        by_contra hne
        rw [Function.update_of_ne hne] at he'
        have hc' := (h.mem cid hcid c').2 ⟨e', he', hmem'⟩
        rw [hfree cid hmem hcid] at hc'
        cases hc'
    · rw [if_neg hmem, h.mem cid hcid]
      by_cases hne : c' = c
      · subst hne
        rw [hc, Function.update_self]
        refine iff_of_false (fun h => ?_) fun h => ?_
        · obtain ⟨e', he', -⟩ := h
          cases he'
        · obtain ⟨e', he', hmem'⟩ := h
          rw [← Option.some.inj he'] at hmem'
          exact hmem hmem'
      · rw [Function.update_of_ne hne]
  · rw [hE' cid hcid]
    split
    · exact le_rfl
    · exact h.once cid hcid

/-- A connection is gone. What it removes beyond its own entries was not there. -/
theorem Routes.removed (h : Routes E conns) (he : conns c = some e)
    (hE' : ∀ cid ≠ [], E' cid = if cid ∈ e.originalDcid :: e.scids then [] else E cid)
    (hforeign : ∀ c' e', conns c' = some e' → c' ≠ c → e.originalDcid ∈ e'.keys → e.originalDcid = [] ∨
      e.originalDcid ∈ e.keys) : Routes E' (Function.update conns c none) := by
  refine ⟨fun cid hcid c' => ?_, fun cid hcid => ?_⟩
  · rw [hE' cid hcid]
    by_cases hne : c' = c
    · subst hne
      rw [Function.update_self]
      refine iff_of_false (fun hmem => ?_) fun hsome => ?_
      · split at hmem
        · cases hmem
        · rename_i hnot
          obtain ⟨e', he', hmem'⟩ := (h.mem cid hcid c').1 hmem
          rw [he] at he'
          rw [← Option.some.inj he'] at hmem'
          exact hnot (TableConn.mem_of_mem_keys hmem')
      · obtain ⟨e', he', -⟩ := hsome
        cases he'
    · rw [Function.update_of_ne hne]
      split
      · rename_i hmem
        refine iff_of_false List.not_mem_nil ?_
        rintro ⟨e', he', hmem'⟩
        have hown : cid ∈ e.keys := by
          rcases List.mem_cons.1 hmem with rfl | hscid
          · exact (hforeign c' e' he' hne hmem').resolve_left hcid
          · unfold TableConn.keys
            split
            · exact List.mem_cons_of_mem _ hscid
            · exact hscid
        exact hne (h.unique hcid he' he hmem' hown)
      · exact h.mem cid hcid c'
  · rw [hE' cid hcid]
    split
    · exact Nat.zero_le _
    · exact h.once cid hcid

end RoutesLemmas

/-! ## Creations -/

section Creations

variable {n fuel : ℕ} {t : ConnTable} {E : Bytes → List ConnId} {env : CreateEnv} {P : TableConn → Prop}

/-- How a creation ends: nothing is left of it, or there is a new connection whose ids were free. -/
inductive Creation (n : ℕ) (E : Bytes → List ConnId) (t : ConnTable) (conn : ConnId)
    (P : TableConn → Prop) : ConnTable → Prop
  | undone {h' : StrHash ConnId} {E' : Bytes → List ConnId} (hE' : Entries n h' E')
      (hsame : ∀ cid ≠ [], E' cid = E cid) : Creation n E t conn P { t with connsHash := h' }
  | done {h' : StrHash ConnId} {E' : Bytes → List ConnId} {e : TableConn} (hE' : Entries n h' E')
      (hkeys : ∀ cid ≠ [], E' cid = if cid ∈ e.keys then [conn] else E cid)
      (hfree : ∀ cid ∈ e.keys, cid ≠ [] → E cid = []) (he : P e) :
      Creation n E t conn P { t with connsHash := h', conns := Function.update t.conns conn (some e) }

/-- A connection that is destroyed while it is created leaves nothing. -/
theorem Creation.destroyed {h₁ : StrHash ConnId} {E₁ : Bytes → List ConnId} {e : TableConn}
    (hE₁ : Entries n h₁ E₁) (hfuel : n ≤ fuel) (hconn : t.conns env.conn = none)
    (honce : ∀ cid ≠ [], (E cid).length ≤ 1)
    (hkeys : ∀ cid ≠ [], E₁ cid = E cid ∨ E₁ cid = [env.conn])
    (hnew : ∀ cid ≠ [], E₁ cid = E cid ∨ cid ∈ e.originalDcid :: e.scids)
    (hfree : ∀ cid ∈ e.originalDcid :: e.scids, cid ≠ [] → E cid = []) :
    ∃ t', connDestroy fuel { t with connsHash := h₁, conns := Function.update t.conns env.conn (some e) }
        env.conn = .ok t' ∧ Creation n E t env.conn P t' := by
  have honce₁ : ∀ cid ≠ [], (E₁ cid).length ≤ 1 := by
    intro cid hcid
    rcases hkeys cid hcid with heq | heq
    · rw [heq]
      exact honce cid hcid
    · rw [heq]
      exact le_rfl
  obtain ⟨h', E', heq, hE', hsame⟩ :=
    Entries.connDestroy (t := { t with connsHash := h₁, conns := Function.update t.conns env.conn (some e) })
      hE₁ hfuel honce₁ (Function.update_self _ _ _)
  refine ⟨_, heq, ?_⟩
  have hconns : Function.update (Function.update t.conns env.conn (some e)) env.conn none = t.conns := by
    rw [Function.update_idem, ← hconn, Function.update_eq_self]
  dsimp only
  rw [hconns]
  refine .undone hE' fun cid hcid => ?_
  rw [hsame cid hcid]
  split
  · rename_i hmem
    exact (hfree cid hmem hcid).symm
  · rename_i hnot
    exact (hnew cid hcid).resolve_right hnot

theorem connCreateTable_spec (hE : Entries n t.connsHash E) (hfuel : n + 1 ≤ fuel)
    (hconn : t.conns env.conn = none) (honce : ∀ cid ≠ [], (E cid).length ≤ 1) {scid : Bytes}
    (hscid : scid ≠ [] → E scid = []) (connType : ConnType) :
    (∃ t', connCreateTable fuel t env connType scid = .ok (false, t') ∧
        Creation (n + 1) E t env.conn P t') ∨
      ∃ h', connCreateTable fuel t env connType scid = .ok (true, { t with
          connsHash := h'
          conns := Function.update t.conns env.conn (some { connType := connType, scids := [scid] }) }) ∧
        Entries (n + 1) h' (Function.update E scid (env.conn :: E scid)) := by
  unfold connCreateTable
  have hfree : ∀ cid ∈ [[], scid], cid ≠ [] → E cid = [] := by
    intro cid hmem hcid
    rcases List.mem_cons.1 hmem with heq | hmem
    · exact absurd heq hcid
    · obtain rfl := List.mem_singleton.1 hmem
      exact hscid hcid
  rcases hE.insert env.conn scid env.scidAllocator env.scidMalloc with herr | ⟨h₁, hok, hE₁⟩
  · rw [herr]
    obtain ⟨h', heq, hE'⟩ := hE.destroyCids (le_of_add_le_left hfuel) { connType := connType, scids := [scid] }
    refine .inl ⟨{ t with connsHash := h' }, ?_, .undone (hE'.mono (Nat.le_succ n)) fun cid hcid => ?_⟩
    · change (connDestroyCids fuel t.connsHash _ >>= fun h => _) = _
      rw [heq]
      rfl
    · rw [foldl_dropLast honce hcid]
      split
      · rename_i hmem
        exact (hfree cid hmem hcid).symm
      · rfl
  · rw [hok]
    dsimp only
    cases hpaths : env.pathsOk with
    | true => exact .inr ⟨h₁, rfl, hE₁⟩
    | false =>
        have hcases : ∀ cid ≠ [], Function.update E scid (env.conn :: E scid) cid = E cid ∨
            cid = scid ∧ Function.update E scid (env.conn :: E scid) cid = [env.conn] := by
          intro cid hcid
          by_cases hne : cid = scid
          · subst hne
            exact .inr ⟨rfl, by rw [Function.update_self, hscid hcid]⟩
          · exact .inl (Function.update_of_ne hne _ _)
        obtain ⟨t', heq, hcreation⟩ :=
          Creation.destroyed (P := P) (e := { connType := connType, scids := [scid] }) hE₁ hfuel hconn honce
            (fun cid hcid => (hcases cid hcid).imp id And.right)
            (fun cid hcid => (hcases cid hcid).imp id fun h => by
              rw [h.1]
              exact List.mem_cons_of_mem _ List.mem_cons_self) hfree
        refine .inl ⟨t', ?_, hcreation⟩
        rw [if_neg Bool.false_ne_true]
        change (Rquic.connDestroy fuel _ env.conn >>= fun t => _) = _
        rw [heq]
        rfl

theorem createEnd_spec {h₁ : StrHash ConnId} {E₁ : Bytes → List ConnId} {e : TableConn}
    (hE₁ : Entries n h₁ E₁) (hfuel : n ≤ fuel) (hconn : t.conns env.conn = none)
    (honce : ∀ cid ≠ [], (E cid).length ≤ 1)
    (hkeys : ∀ cid ≠ [], E₁ cid = if cid ∈ e.keys then [env.conn] else E cid)
    (hfree : ∀ cid ∈ e.originalDcid :: e.scids, cid ≠ [] → E cid = []) (he : P e) :
    ∃ r t', createEnd fuel { t with connsHash := h₁, conns := Function.update t.conns env.conn (some e) } env =
        .ok (r, t') ∧ Creation n E t env.conn P t' := by
  unfold createEnd
  split
  · exact ⟨_, _, rfl, .done hE₁ hkeys (fun cid hmem => hfree cid (TableConn.mem_of_mem_keys hmem)) he⟩
  · obtain ⟨t', heq, hcreation⟩ := Creation.destroyed (P := P) (e := e) hE₁ hfuel hconn honce
      (fun cid hcid => by
        rw [hkeys cid hcid]
        split
        · exact .inr rfl
        · exact .inl rfl)
      (fun cid hcid => by
        rw [hkeys cid hcid]
        split
        · rename_i hmem
          exact .inr (TableConn.mem_of_mem_keys hmem)
        · exact .inl rfl) hfree
    refine ⟨none, t', ?_, hcreation⟩
    change (Rquic.connDestroy fuel _ env.conn >>= fun t => _) = _
    rw [heq]
    rfl

/-- **A client connects** with ids that are not in use. -/
theorem clientConnect_spec (hE : Entries n t.connsHash E) (hfuel : n + 1 ≤ fuel)
    (hconn : t.conns env.conn = none) (honce : ∀ cid ≠ [], (E cid).length ≤ 1) {scid dcid : Bytes}
    (hscid : scid ≠ [] → E scid = []) (hdcid : dcid ≠ [] → E dcid = []) :
    ∃ r t', clientConnect fuel t env scid dcid = .ok (r, t') ∧
      Creation (n + 1) E t env.conn
        (fun e => e = { connType := .client, scids := [scid], originalDcid := dcid }) t' := by
  unfold clientConnect
  rcases connCreateTable_spec hE hfuel hconn honce hscid .client with
    ⟨t', heq, hcreation⟩ | ⟨h₁, heq, hE₁⟩
  · rw [heq]
    exact ⟨none, t', rfl, hcreation⟩
  · rw [heq]
    obtain ⟨r, t', heq', hcreation⟩ := createEnd_spec (t := t)
      (e := { connType := .client, scids := [scid], originalDcid := dcid })
      (P := fun e => e = { connType := .client, scids := [scid], originalDcid := dcid }) hE₁ hfuel hconn honce
      (fun cid hcid => by
        rw [TableConn.keys_client]
        by_cases hne : cid = scid
        · subst hne
          rw [Function.update_self, hscid hcid, if_pos (List.mem_singleton.2 rfl)]
        · rw [Function.update_of_ne hne, if_neg fun hmem => hne (List.mem_singleton.1 hmem)])
      (fun cid hmem hcid => by
        rcases List.mem_cons.1 hmem with rfl | hmem
        · exact hdcid hcid
        · obtain rfl := List.mem_singleton.1 hmem
          exact hscid hcid) rfl
    refine ⟨r, t', ?_, hcreation⟩
    rw [← heq']
    change createEnd fuel { t with
      connsHash := h₁
      conns := Function.update (Function.update t.conns env.conn _) env.conn _ } env = _
    rw [Function.update_idem]

/-- **A server creates a connection** for an id that was not found. -/
theorem serverCreate_spec (hE : Entries n t.connsHash E) (hfuel : n + 2 ≤ fuel)
    (hconn : t.conns env.conn = none) (honce : ∀ cid ≠ [], (E cid).length ≤ 1) {scid : Bytes}
    (hscid : scid ≠ [] → E scid = [])
    (hgenerated : ∀ cid, env.generated = some cid → cid ≠ [] → E cid = []) :
    ∃ r t', serverCreate fuel t env scid = .ok (r, t') ∧
      Creation (n + 2) E t env.conn (fun e => e.connType = .server) t' := by
  unfold serverCreate
  cases hnew : (if t.cidNegotiate = true ∨ scid.length ≠ t.cidLen then env.generated else some scid) with
  | none =>
      have hE' : Entries (n + 2) t.connsHash E := hE.mono (Nat.le_add_right n 2)
      exact ⟨none, t, rfl, .undone hE' fun _ _ => rfl⟩
  | some newScid =>
      have hnewScid : newScid ≠ [] → E newScid = [] := by
        split at hnew
        · exact hgenerated newScid hnew
        · obtain rfl := Option.some.inj hnew
          exact hscid
      dsimp only
      rcases connCreateTable_spec (P := fun e => e.connType = .server) hE (by omega : n + 1 ≤ fuel) hconn honce
          hnewScid .server with ⟨t', heq, hcreation⟩ | ⟨h₁, heq, hE₁⟩
      · rw [heq]
        refine ⟨none, t', rfl, ?_⟩
        cases hcreation with
        | undone hE' hsame => exact .undone (hE'.mono (Nat.le_succ _)) hsame
        | done hE' hkeys hfree he => exact .done (hE'.mono (Nat.le_succ _)) hkeys hfree he
      · rw [heq]
        change ∃ r t', (if scid ∈ [newScid] then createEnd fuel { t with
            connsHash := h₁
            conns := Function.update (Function.update t.conns env.conn _) env.conn
              (some { connType := .server, scids := [newScid], originalDcid := scid }) } env
          else _) = _ ∧ _
        rw [Function.update_idem]
        have hfree : ∀ cid ∈ [scid, newScid], cid ≠ [] → E cid = [] := by
          intro cid hmem hcid
          rcases List.mem_cons.1 hmem with rfl | hmem
          · exact hscid hcid
          · obtain rfl := List.mem_singleton.1 hmem
            exact hnewScid hcid
        by_cases hmem : scid ∈ [newScid]
        · obtain rfl := List.mem_singleton.1 hmem
          rw [if_pos hmem]
          refine createEnd_spec (hE₁.mono (Nat.le_succ _)) hfuel hconn honce (fun cid hcid => ?_) hfree rfl
          rw [TableConn.keys_server]
          by_cases hne : cid = scid
          · subst hne
            rw [Function.update_self, hscid hcid, if_pos List.mem_cons_self]
          · rw [Function.update_of_ne hne, if_neg (by simp [hne])]
        · have hneq : scid ≠ newScid := fun heq => hmem (List.mem_singleton.2 heq)
          rw [if_neg hmem]
          rcases hE₁.insert env.conn scid env.odcidAllocator env.odcidMalloc with herr | ⟨h₂, hok, hE₂⟩
          · rw [herr]
            obtain ⟨t', heq', hcreation⟩ := Creation.destroyed (t := t) (P := fun e => e.connType = .server)
              (e := { connType := .server, scids := [newScid], originalDcid := scid })
              (hE₁.mono (Nat.le_succ _)) hfuel hconn honce
              (fun cid hcid => by
                by_cases hne : cid = newScid
                · subst hne
                  rw [Function.update_self, hnewScid hcid]
                  exact .inr rfl
                · exact .inl (Function.update_of_ne hne _ _))
              (fun cid hcid => by
                by_cases hne : cid = newScid
                · subst hne
                  exact .inr (List.mem_cons_of_mem _ List.mem_cons_self)
                · exact .inl (Function.update_of_ne hne _ _)) hfree
            refine ⟨none, t', ?_, hcreation⟩
            change (connDestroy fuel _ env.conn >>= fun t => _) = _
            rw [heq']
            rfl
          · rw [hok]
            refine createEnd_spec hE₂ hfuel hconn honce (fun cid hcid => ?_) hfree rfl
            rw [TableConn.keys_server]
            by_cases hne : cid = scid
            · subst hne
              rw [Function.update_self, Function.update_of_ne hneq, hscid hcid, if_pos List.mem_cons_self]
            · rw [Function.update_of_ne hne]
              by_cases hne' : cid = newScid
              · subst hne'
                rw [Function.update_self, hnewScid hcid,
                  if_pos (List.mem_cons_of_mem _ List.mem_cons_self)]
              · rw [Function.update_of_ne hne', if_neg (by simp [hne, hne'])]

end Creations

/-! ## Runs -/

section Runs

variable {n fuel : ℕ} {t t' : ConnTable}

/-- No live connection has the id. -/
def ConnTable.Unused (t : ConnTable) (cid : Bytes) : Prop :=
  cid ≠ [] → ∀ c e, t.conns c = some e → cid ∉ e.originalDcid :: e.scids

/-- A new connection gets an address that is free, and ids are generated that no live connection has. Only a
client opens connections of its own. -/
def TableEvent.Fresh (t : ConnTable) : TableEvent → Prop
  | .packet env _ _ => t.conns env.conn = none ∧ ∀ cid, env.generated = some cid → t.Unused cid
  | .connect env scid dcid =>
    t.engType = .client ∧ t.conns env.conn = none ∧ t.Unused scid ∧ t.Unused dcid
  | .destroy _ => True

/-- What is generated is new at every point of the run. -/
def ConnTable.FreshAlong (fuel : ℕ) : ConnTable → List TableEvent → Prop
  | _, [] => True
  | t, ev :: events => ev.Fresh t ∧ ∀ t', t.step fuel ev = .ok t' → FreshAlong fuel t' events

/-- The table routes, and what a client will remove is not the id of another connection. -/
structure TableInv (n : ℕ) (t : ConnTable) : Prop where
  routes : ∃ E, Entries n t.connsHash E ∧ Routes E t.conns
  typed : ∀ c e, t.conns c = some e → e.connType = t.engType
  dcids : ∀ c e, t.conns c = some e → e.connType = .client → e.originalDcid ≠ [] →
    ∀ c' e', t.conns c' = some e' → c' ≠ c → e.originalDcid ∉ e'.keys

theorem TableInv.mono (h : TableInv n t) {n' : ℕ} (hn : n ≤ n') : TableInv n' t := by
  obtain ⟨E, hE, hroutes⟩ := h.routes
  exact ⟨⟨E, hE.mono hn, hroutes⟩, h.typed, h.dcids⟩

/-- **A lookup finds the live connection with the id.** -/
theorem TableInv.find (h : TableInv n t) (hfuel : n ≤ fuel) (cid : Bytes) :
    ∃ r, engineConnsHashFind fuel t.connsHash cid = .ok r ∧
      ∀ c, r = some c ↔ cid ≠ [] ∧ ∃ e, t.conns c = some e ∧ cid ∈ e.keys := by
  obtain ⟨E, hE, hroutes⟩ := h.routes
  unfold engineConnsHashFind
  by_cases hcid : cid = []
  · subst hcid
    exact ⟨none, rfl, fun c => iff_of_false nofun fun h => h.1 rfl⟩
  · have hlen : cid.length ≠ 0 := fun hzero => hcid (List.eq_nil_of_length_eq_zero hzero)
    rw [if_neg hlen, hE.find hfuel]
    refine ⟨_, rfl, fun c => ?_⟩
    rw [and_iff_right hcid, ← hroutes.mem cid hcid c]
    have honce := hroutes.once cid hcid
    cases hcons : E cid with
    | nil => exact iff_of_false nofun List.not_mem_nil
    | cons c' cs =>
        rw [hcons, List.length_cons] at honce
        obtain rfl := List.eq_nil_of_length_eq_zero (by omega : cs.length = 0)
        rw [List.head?_cons, List.mem_singleton]
        exact ⟨fun heq => (Option.some.inj heq).symm, fun heq => congrArg some heq.symm⟩

theorem TableInv.entry_nil {E : Bytes → List ConnId} (hE : Entries n t.connsHash E) (hfuel : n ≤ fuel)
    {cid : Bytes} (hnone : engineConnsHashFind fuel t.connsHash cid = .ok none) (hcid : cid ≠ []) :
    E cid = [] := by
  unfold engineConnsHashFind at hnone
  have hlen : cid.length ≠ 0 := fun hzero => hcid (List.eq_nil_of_length_eq_zero hzero)
  rw [if_neg hlen, hE.find hfuel] at hnone
  exact List.head?_eq_none_iff.1 (Except.ok.inj hnone)

theorem ConnTable.Unused.entry_nil {E : Bytes → List ConnId} {cid : Bytes} (h : t.Unused cid)
    (hroutes : Routes E t.conns) (hcid : cid ≠ []) : E cid = [] :=
  hroutes.eq_nil hcid fun c e he hmem => h hcid c e he (TableConn.mem_of_mem_keys hmem)

theorem Creation.inv {E : Bytes → List ConnId} {conn : ConnId} {P : TableConn → Prop}
    (h : Creation n E t conn P t') (hroutes : Routes E t.conns) (hconn : t.conns conn = none)
    (htyped : ∀ c e, t.conns c = some e → e.connType = t.engType)
    (hdcids : ∀ c e, t.conns c = some e → e.connType = .client → e.originalDcid ≠ [] →
      ∀ c' e', t.conns c' = some e' → c' ≠ c → e.originalDcid ∉ e'.keys)
    (hP : ∀ e, P e → e.connType = t.engType ∧ (e.connType = .client → ∀ c' e', t.conns c' = some e' →
      (e.originalDcid ≠ [] → e.originalDcid ∉ e'.keys) ∧
        (e'.originalDcid ≠ [] → e'.originalDcid ∉ e.keys))) : TableInv n t' ∧ t'.engType = t.engType := by
  cases h with
  | undone hE' hsame => exact ⟨⟨⟨_, hE', hroutes.congr hsame⟩, htyped, hdcids⟩, rfl⟩
  | @done h' E' e hE' hkeys hfree he =>
      obtain ⟨htype, hforeign⟩ := hP e he
      have hcases : ∀ c e₁, Function.update t.conns conn (some e) c = some e₁ →
          c = conn ∧ e₁ = e ∨ c ≠ conn ∧ t.conns c = some e₁ := by
        intro c e₁ he₁
        by_cases hc : c = conn
        · subst hc
          rw [Function.update_self] at he₁
          exact .inl ⟨rfl, (Option.some.inj he₁).symm⟩
        · rw [Function.update_of_ne hc] at he₁
          exact .inr ⟨hc, he₁⟩
      refine ⟨⟨⟨E', hE', hroutes.added hconn hkeys hfree⟩, fun c e₁ he₁ => ?_, ?_⟩, rfl⟩
      · rcases hcases c e₁ he₁ with ⟨-, rfl⟩ | ⟨-, he₁⟩
        · exact htype
        · exact htyped c e₁ he₁
      · intro c e₁ he₁ hclient hne c₂ e₂ he₂ hc₂
        rcases hcases c e₁ he₁ with ⟨hc, rfl⟩ | ⟨hc, hold₁⟩
        · rcases hcases c₂ e₂ he₂ with ⟨hc', -⟩ | ⟨-, hold₂⟩
          · exact absurd (hc'.trans hc.symm) hc₂
          · exact (hforeign hclient c₂ e₂ hold₂).1 hne
        · rcases hcases c₂ e₂ he₂ with ⟨-, rfl⟩ | ⟨-, hold₂⟩
          · have hclient' : e₂.connType = .client := htype.trans ((htyped c e₁ hold₁).symm.trans hclient)
            exact (hforeign hclient' c e₁ hold₁).2 hne
          · exact hdcids c e₁ hold₁ hclient hne c₂ e₂ hold₂ hc₂

theorem TableInv.destroy (h : TableInv n t) (hfuel : n ≤ fuel) (conn : ConnId) :
    ∃ t', connDestroy fuel t conn = .ok t' ∧ TableInv n t' ∧ t'.engType = t.engType := by
  cases he : t.conns conn with
  | none =>
      refine ⟨t, ?_, h, rfl⟩
      unfold connDestroy
      rw [he]
  | some e =>
      obtain ⟨E, hE, hroutes⟩ := h.routes
      obtain ⟨h', E', heq, hE', hsame⟩ := hE.connDestroy hfuel hroutes.once he
      have hold : ∀ c e₁, Function.update t.conns conn none c = some e₁ → t.conns c = some e₁ := by
        intro c e₁ he₁
        by_cases hc : c = conn
        · subst hc
          rw [Function.update_self] at he₁
          cases he₁
        · rwa [Function.update_of_ne hc] at he₁
      have hforeign : ∀ c' e', t.conns c' = some e' → c' ≠ conn → e.originalDcid ∈ e'.keys →
          e.originalDcid = [] ∨ e.originalDcid ∈ e.keys := by
        intro c' e' he' hne hmem
        cases htype : e.connType with
        | server =>
            refine .inr ?_
            unfold TableConn.keys
            rw [htype]
            exact List.mem_cons_self
        | client =>
            by_contra hnot
            exact h.dcids conn e he htype (fun hnil => hnot (.inl hnil)) c' e' he' hne hmem
      refine ⟨_, heq, ⟨⟨E', hE', hroutes.removed he hsame hforeign⟩, fun c e₁ he₁ => ?_, ?_⟩, rfl⟩
      · exact h.typed c e₁ (hold c e₁ he₁)
      · intro c e₁ he₁ hclient hne c' e' he'
        exact h.dcids c e₁ (hold c e₁ he₁) hclient hne c' e' (hold c' e' he')

/-- **One event keeps the invariant.** -/
theorem TableInv.step (h : TableInv n t) (hfuel : n + 2 ≤ fuel) {ev : TableEvent} (hfresh : ev.Fresh t) :
    ∃ t', t.step fuel ev = .ok t' ∧ TableInv (n + 2) t' ∧ t'.engType = t.engType := by
  have hn : n ≤ fuel := le_of_add_le_left hfuel
  cases ev with
  | packet env buf hasAddrs =>
      obtain ⟨hconn, hgenerated⟩ := hfresh
      have hsame : ∀ r, packetProcess fuel t env buf hasAddrs = .ok (r, t) →
          ∃ t', t.step fuel (.packet env buf hasAddrs) = .ok t' ∧ TableInv (n + 2) t' ∧
            t'.engType = t.engType := by
        intro r heq
        refine ⟨t, ?_, h.mono (Nat.le_add_right n 2), rfl⟩
        rw [ConnTable.step, heq]
        rfl
      cases hparse : parseCid t.cidLen buf with
      | error e =>
          refine hsame none ?_
          unfold packetProcess
          rw [hparse]
      | ok cids =>
          obtain ⟨scid, dcid⟩ := cids
          obtain ⟨r, hfind, -⟩ := h.find hn scid
          have hunfold : packetProcess fuel t env buf hasAddrs =
              ((.ok r : Except Halt (Option ConnId)) >>= fun r => (match r with
              | some conn => pure (some conn, t)
              | none =>
                if isInitial buf = true ∧ t.engType = .server ∧ hasAddrs = true then
                  serverCreate fuel t env scid
                else pure (none, t) : Except Halt (Option ConnId × ConnTable))) := by
            rw [← hfind]
            unfold packetProcess
            rw [hparse]
          cases r with
          | some conn => exact hsame _ hunfold
          | none =>
              have hprocess : packetProcess fuel t env buf hasAddrs =
                  if isInitial buf = true ∧ t.engType = .server ∧ hasAddrs = true then
                    serverCreate fuel t env scid
                  else .ok (none, t) := hunfold
              by_cases hcreate : isInitial buf = true ∧ t.engType = .server ∧ hasAddrs = true
              · rw [if_pos hcreate] at hprocess
                obtain ⟨E, hE, hroutes⟩ := h.routes
                obtain ⟨r, t', heq, hcreation⟩ := serverCreate_spec hE hfuel hconn hroutes.once
                  (TableInv.entry_nil hE hn hfind)
                  (fun cid hcid => (hgenerated cid hcid).entry_nil hroutes)
                refine ⟨t', ?_, hcreation.inv hroutes hconn h.typed h.dcids fun e he => ⟨?_, ?_⟩⟩
                · rw [ConnTable.step, hprocess, heq]
                  rfl
                · exact he.trans hcreate.2.1.symm
                · intro hclient
                  rw [he] at hclient
                  cases hclient
              · rw [if_neg hcreate] at hprocess
                exact hsame none hprocess
  | connect env scid dcid =>
      obtain ⟨htype, hconn, hscid, hdcid⟩ := hfresh
      obtain ⟨E, hE, hroutes⟩ := h.routes
      obtain ⟨r, t', heq, hcreation⟩ := clientConnect_spec hE (by omega : n + 1 ≤ fuel) hconn hroutes.once
        (hscid.entry_nil hroutes) (hdcid.entry_nil hroutes)
      have hinv := hcreation.inv hroutes hconn h.typed h.dcids fun e he => ⟨?_, fun _ c' e' he' => ⟨?_, ?_⟩⟩
      · refine ⟨t', ?_, hinv.1.mono (Nat.le_succ _), hinv.2⟩
        rw [ConnTable.step, heq]
        rfl
      · rw [he]
        exact htype.symm
      · rw [he]
        intro hne hmem
        exact hdcid hne c' e' he' (TableConn.mem_of_mem_keys hmem)
      · rw [he, TableConn.keys_client]
        intro hne hmem
        have heq' := List.mem_singleton.1 hmem
        rw [heq'] at hne
        exact hscid hne c' e' he' (heq' ▸ List.mem_cons_self)
  | destroy conn =>
      obtain ⟨t', heq, hinv, htype⟩ := h.destroy hn conn
      exact ⟨t', heq, hinv.mono (Nat.le_add_right n 2), htype⟩

theorem TableInv.run (h : TableInv n t) {events : List TableEvent} (hfuel : n + 2 * events.length ≤ fuel)
    (hfresh : t.FreshAlong fuel events) :
    ∃ t', t.run fuel events = .ok t' ∧ TableInv (n + 2 * events.length) t' := by
  induction events generalizing t n with
  | nil => exact ⟨t, rfl, h⟩
  | cons ev events ih =>
      rw [List.length_cons] at hfuel
      have hn : n + 2 ≤ fuel := by omega
      obtain ⟨t₁, hstep, h₁, -⟩ := h.step hn hfresh.1
      obtain ⟨t', hrun, h'⟩ := ih h₁ (by omega) (hfresh.2 t₁ hstep)
      refine ⟨t', ?_, h'.mono ?_⟩
      · unfold ConnTable.run
        rw [List.foldlM_cons, hstep]
        exact hrun
      · rw [List.length_cons]
        omega

theorem tableInv_empty {h : StrHash ConnId} {bucketNum keyLen : ℕ} {key : Bytes}
    (hinit : StrHash.init bucketNum key keyLen = some h) (engType : ConnType) (cidLen : ℕ)
    (cidNegotiate : Bool) :
    TableInv 0 { engType := engType, cidLen := cidLen, cidNegotiate := cidNegotiate, connsHash := h } := by
  refine ⟨⟨fun _ => [], ⟨_, StrHash.init_refines hinit, fun _ => rfl⟩, fun cid _ c => ?_, fun _ _ => ?_⟩,
    nofun, nofun⟩
  · exact iff_of_false List.not_mem_nil fun h => by
      obtain ⟨e, he, -⟩ := h
      cases he
  · exact Nat.zero_le 1

/-- **The engine finds the connection that is meant**: in every run with new addresses and new ids, nothing that
was freed is touched, and a lookup finds the live connection that answers to an id, and nothing for any other. -/
theorem connTable_routes {h : StrHash ConnId} {bucketNum keyLen : ℕ} {key : Bytes}
    (hinit : StrHash.init bucketNum key keyLen = some h) (engType : ConnType) (cidLen : ℕ)
    (cidNegotiate : Bool) {events : List TableEvent} (hfuel : 2 * events.length ≤ fuel)
    (hfresh : ConnTable.FreshAlong fuel
      { engType := engType, cidLen := cidLen, cidNegotiate := cidNegotiate, connsHash := h } events) :
    ∃ t, ConnTable.run fuel
        { engType := engType, cidLen := cidLen, cidNegotiate := cidNegotiate, connsHash := h } events = .ok t ∧
      ∀ cid, ∃ r, engineConnsHashFind fuel t.connsHash cid = .ok r ∧
        ∀ c, r = some c ↔ cid ≠ [] ∧ ∃ e, t.conns c = some e ∧ cid ∈ e.keys := by
  have hle : 0 + 2 * events.length ≤ fuel := by rwa [Nat.zero_add]
  obtain ⟨t, hrun, hinv⟩ := (tableInv_empty hinit engType cidLen cidNegotiate).run hle hfresh
  exact ⟨t, hrun, hinv.find hle⟩

/-- A server that generates the id `cid` for its connection. -/
def creating (conn : ConnId) (cid : Bytes) : CreateEnv :=
  ⟨conn, some cid, .cells 4, true, true, .cells 4, true, true⟩

/-- Initial packets of two clients, and the first connection is destroyed. -/
def twoClients : List TableEvent :=
  [.packet (creating 0 [9, 1]) [0xC3, 0, 0, 0, 1, 3, 8, 8, 1, 1, 7] true,
    .packet (creating 1 [9, 2]) [0xC3, 0, 0, 0, 1, 3, 8, 8, 2, 1, 7] true, .destroy 0]

/-- The ids of the second connection are found, and those of the first one are not. -/
theorem connTable_routes_twoClients : ∃ h, StrHash.init 4 (List.replicate 16 7) 16 = some h ∧ ∃ t,
    ConnTable.run 6 { engType := .server, cidLen := 2, cidNegotiate := false, connsHash := h } twoClients = .ok t ∧
      engineConnsHashFind 6 t.connsHash [8, 8, 2] = .ok (some 1) ∧
      engineConnsHashFind 6 t.connsHash [9, 2] = .ok (some 1) ∧
      engineConnsHashFind 6 t.connsHash [9, 1] = .ok none := by
  obtain ⟨h, hinit⟩ : ∃ h, (StrHash.init 4 (List.replicate 16 7) 16 : Option (StrHash ConnId)) = some h := ⟨_, rfl⟩
  have hfirst : (ConnTable.step 6 { engType := .server, cidLen := 2, cidNegotiate := false, connsHash := h }
      (.packet (creating 0 [9, 1]) [0xC3, 0, 0, 0, 1, 3, 8, 8, 1, 1, 7] true)).map ConnTable.conns =
        .ok (Function.update (Function.update (fun _ => none) 0
          (some { connType := .server, scids := [[9, 1]] })) 0
          (some { connType := .server, scids := [[9, 1]], originalDcid := [8, 8, 1] })) := by
    obtain rfl := Option.some.inj hinit
    rfl
  have hfresh : ConnTable.FreshAlong 6
      { engType := .server, cidLen := 2, cidNegotiate := false, connsHash := h } twoClients := by
    refine ⟨⟨rfl, fun cid _ _ c e he => by cases he⟩, fun t₁ h₁ => ⟨?_, fun _ _ => ⟨trivial, fun _ _ => trivial⟩⟩⟩
    rw [h₁, Function.update_idem] at hfirst
    have hconns : t₁.conns = Function.update (fun _ => none) 0
        (some { connType := .server, scids := [[9, 1]], originalDcid := [8, 8, 1] }) := Except.ok.inj hfirst
    refine ⟨by rw [hconns]; rfl, fun cid hcid _ c e he => ?_⟩
    obtain rfl := Option.some.inj hcid
    rw [hconns] at he
    by_cases hc : c = 0
    · rw [hc, Function.update_self] at he
      obtain rfl := Option.some.inj he
      decide
    · rw [Function.update_of_ne hc] at he
      cases he
  obtain ⟨t, hrun, hfind⟩ := connTable_routes hinit .server 2 false (by decide) hfresh
  have hkeys : (ConnTable.run 6 { engType := .server, cidLen := 2, cidNegotiate := false, connsHash := h }
      twoClients).toOption.bind (fun t => (t.conns 1).map TableConn.keys) = some [[8, 8, 2], [9, 2]] := by
    obtain rfl := Option.some.inj hinit
    decide +kernel
  have hgone : (ConnTable.run 6 { engType := .server, cidLen := 2, cidNegotiate := false, connsHash := h }
      twoClients).toOption.bind (fun t => (engineConnsHashFind 6 t.connsHash [9, 1]).toOption) = some none := by
    obtain rfl := Option.some.inj hinit
    decide +kernel
  rw [hrun] at hkeys hgone
  obtain ⟨e, he, hmem⟩ := Option.map_eq_some_iff.1 hkeys
  have hfound : ∀ cid ∈ [[8, 8, 2], [9, 2]], engineConnsHashFind 6 t.connsHash cid = .ok (some 1) := by
    intro cid hcid
    obtain ⟨r, hr, hiff⟩ := hfind cid
    have hne : cid ≠ [] := fun hnil => by simp [hnil] at hcid
    rw [hr, (hiff 1).2 ⟨hne, e, he, hmem ▸ hcid⟩]
  refine ⟨h, hinit, t, hrun, hfound _ List.mem_cons_self, hfound _ (List.mem_cons_of_mem _ List.mem_cons_self), ?_⟩
  obtain ⟨r, hr, -⟩ := hfind [9, 1]
  change (engineConnsHashFind 6 t.connsHash [9, 1]).toOption = some none at hgone
  rw [hr] at hgone ⊢
  obtain rfl : r = none := Option.some.inj hgone
  rfl

end Runs

end Rquic
