import RoleGrants.Api.Reply
import RoleGrants.Proofs.Place

/-! An API server as the operator relies on it. It keeps objects as they are sent and lists them in
the order in which they came, refuses to read an object that is not there and to create one that is,
and takes a patch of a status as one to be merged. `Objects.serve` gives the reply to each request
from the objects alone; a `Server` may keep more than the objects and words its refusals freely. -/

namespace RoleGrants

/-- The namespace of a place as a value, which is null for the whole cluster. -/
def Place.spaceValue : Place → Value
  | ⟨none, _⟩ => .null
  | ⟨some space, _⟩ => .text space

theorem Place.spaceValue_beq {place other : Place} :
    (place.spaceValue == other.spaceValue) = true ↔ place.space = other.space := by
  obtain ⟨_ | space, name⟩ := place <;> obtain ⟨_ | otherSpace, otherName⟩ := other
  · exact iff_of_true rfl rfl
  · simp [spaceValue]
  · simp [spaceValue]
  · simp only [spaceValue, Value.text_beq_iff, Value.text.injEq, Option.some.injEq]
    exact eq_comm

namespace Value

/-- The place that the metadata of an object give, if they give one. A namespace that is not present
is none. -/
def place? : Value → Option Place
  | .object fields =>
    match fields.lookup "metadata" with
    | some (.object metadata) =>
      match ((metadata.lookup "namespace").getD .null).orElse .null, metadata.lookup "name" with
      | .null, some (.text name) => some ⟨none, name⟩
      | .text space, some (.text name) => some ⟨some space, name⟩
      | _, _ => none
    | _ => none
  | _ => none

theorem place?_eq_some {body : Value} {place : Place} (h : body.place? = some place) :
    ∃ fields metadata, body = .object fields ∧ fields.lookup "metadata" = some (.object metadata) ∧
      metadata.lookup "name" = some (.text place.name) ∧
      ((metadata.lookup "namespace").getD .null).orElse .null = place.spaceValue := by
  unfold place? at h
  split at h
  · next fields =>
    split at h
    · next metadata hmetadata =>
      refine ⟨fields, metadata, rfl, hmetadata, ?_⟩
      split at h <;> cases h
      · next hspace hname => exact ⟨hname, hspace⟩
      · next hspace hname => exact ⟨hname, hspace⟩
    · cases h
  · cases h

theorem of_orElse_null {value : Value} {text : String} (h : value.orElse .null = .text text) :
    value = .text text ∧ text ≠ "" := by
  unfold orElse at h
  split at h
  · next hpresent => exact ⟨h, isTrue_text.mp (h ▸ hpresent)⟩
  · cases h

/-- The fields of an object; any other value has none. -/
def fields : Value → List (String × Value)
  | .object fields => fields
  | _ => []

mutual

/-- A value with a patch merged into it. The fields of an object are merged one by one, a field that
the patch sets to null is removed, and any other value takes the place of what was there. -/
def merged (target : Value) : Value → Value
  | .object patch => .object (mergedFields target.fields patch)
  | patch => patch

def mergedFields (fields : List (String × Value)) : List (String × Value) → List (String × Value)
  | [] => fields
  | (key, patch) :: rest =>
    let fields :=
      match patch with
      | .null => fields.filter fun field => field.1 != key
      | _ => putField fields key (merged ((fields.lookup key).getD .null) patch)
    mergedFields fields rest

end

example : ((object [("a", .list [.int 1]), ("b", "x")]).merged
    (.object [("a", .list [.null]), ("b", .null), ("c", .object [("d", .null), ("e", .int 2)])]) ==
    .object [("a", .list [.null]), ("c", .object [("e", .int 2)])]) = true := by
  decide +kernel

end Value

namespace Api

/-- The objects that a server keeps, each as it was sent. Bindings in namespaces and bindings on the
whole cluster stand in one list, in the order in which they came. -/
structure Objects where
  custom : CustomResource → List Value
  namespaces : List Value
  roles : List Value
  bindings : List Value

/-- Whether an object is kept under a namespace, or null for the whole cluster, and a name. -/
def isAt (space name body : Value) : Bool :=
  body.place?.any fun place => place.spaceValue == space && .text place.name == name

def isIn (space body : Value) : Bool :=
  body.place?.any fun place => place.space.isSome && place.spaceValue == space

def isInSome (body : Value) : Bool :=
  body.place?.any fun place => place.space.isSome

namespace Objects

/-- The reply that gives an object, or the status of the refusal if it is not there. -/
def found (bodies : List Value) (space name : Value) : Except Int Reply :=
  match bodies.find? (isAt space name) with
  | some body => .ok (.object body)
  | none => .error 404

def listed (bodies : List Value) : Except Int Reply :=
  .ok (.items (.list bodies))

/-- The reply to a binding that is sent to be created in a namespace, or on the whole cluster for
null, and the objects after it. -/
def create (objects : Objects) (space body : Value) : Except Int Reply × Objects :=
  match body.place?.filter fun place => place.spaceValue == space with
  | none => (.error 400, objects)
  | some place =>
    if objects.bindings.any (isAt place.spaceValue (.text place.name)) then (.error 409, objects)
    else (.ok (.object body), { objects with bindings := objects.bindings ++ [body] })

/-- The objects with a patch merged into the custom resources of a kind under one key. -/
def patch (objects : Objects) (resource : CustomResource) (space name patch : Value) : Objects :=
  { objects with
    custom := fun other =>
      if other = resource then
        (objects.custom resource).map fun body =>
          if isAt space name body then body.merged patch else body
      else objects.custom other }

/-- The reply to a request, or the status of its refusal, and the objects after it. -/
def serve (objects : Objects) : Request → Except Int Reply × Objects
  | .readCustom resource space name => (found (objects.custom resource) space name, objects)
  | .listCustomIn resource space =>
    (listed ((objects.custom resource).filter (isIn space)), objects)
  | .listCustom resource => (listed (objects.custom resource), objects)
  | .patchCustomStatus resource space name patch =>
    match (objects.custom resource).find? (isAt space name) with
    | some body => (.ok (.object (body.merged patch)), objects.patch resource space name patch)
    | none => (.error 404, objects)
  | .listClusterRoles => (listed objects.roles, objects)
  | .listClusterRoleBindings =>
    (listed (objects.bindings.filter fun body => !isInSome body), objects)
  | .listRoleBindingsIn space => (listed (objects.bindings.filter (isIn space)), objects)
  | .listRoleBindings => (listed (objects.bindings.filter isInSome), objects)
  | .createRoleBinding space body => objects.create space body
  | .createClusterRoleBinding body => objects.create .null body
  | .readNamespace name => (found objects.namespaces .null name, objects)
  | .listNamespaces => (listed objects.namespaces, objects)

end Objects

/-- A server: what it keeps in each of its states, and its reply to a request with the state after
it. -/
structure Server (σ : Type) where
  objects : σ → Objects
  reply : σ → Request → Reply × σ

namespace Server

variable {σ : Type}

/-- Whether a server keeps its objects and replies as `Objects.serve` says. It may give any reason
for a refusal. -/
structure IsFaithful (server : Server σ) : Prop where
  keeps : ∀ state request,
    server.objects (server.reply state request).2 = ((server.objects state).serve request).2
  replies : ∀ state request reply, ((server.objects state).serve request).1 = .ok reply →
    (server.reply state request).1 = reply
  refuses : ∀ state request status, ((server.objects state).serve request).1 = .error status →
    ∃ reason, (server.reply state request).1 = .refused (.int status) reason

/-- The answer to a call of the store that is made as a request to a server, and the state of the
server after it. -/
def ask (server : Server σ) (settings : Settings) (state : σ) (call : StoreCall) :
    Except Failure call.Answer × σ :=
  let (reply, after) := server.reply state (.ofCall settings call)
  (reply.answer call, after)

/-- The server that keeps nothing but objects. -/
def plain : Server Objects where
  objects := id
  reply objects request :=
    match objects.serve request with
    | (.ok reply, after) => (reply, after)
    | (.error status, after) => (.refused (.int status) (.text (reason status)), after)
where
  reason : Int → String
    | 400 => "Bad Request"
    | 404 => "Not Found"
    | 409 => "Conflict"
    | _ => ""

theorem plain_isFaithful : plain.IsFaithful := by
  have hreply : ∀ (objects : Objects) (request : Request), plain.reply objects request =
      match objects.serve request with
      | (.ok reply, after) => (reply, after)
      | (.error status, after) => (.refused (.int status) (.text (plain.reason status)), after) :=
    fun _ _ => rfl
  refine ⟨fun objects request => ?_, fun objects request reply h => ?_,
    fun objects request status h => ?_⟩ <;> rw [hreply]
  · change _ = (objects.serve request).2
    rcases objects.serve request with ⟨_ | _, _⟩ <;> rfl
  · change (objects.serve request).1 = _ at h
    rcases hserve : objects.serve request with ⟨_ | _, _⟩ <;> rw [hserve] at h <;> cases h
    rfl
  · change (objects.serve request).1 = _ at h
    rcases hserve : objects.serve request with ⟨_ | _, _⟩ <;> rw [hserve] at h <;> cases h
    exact ⟨_, rfl⟩

end Server

end Api

end RoleGrants
