import TokenFactory.Data.Distinct
import TokenFactory.Go.Errors
import TokenFactory.Supplier.Channels

namespace TokenFactory.Channels

open Data Go Supplier
open Distributor (ChannelStatus)
open Relay (isValidRouteSlug)

/-! The channels table and the abilities table that is derived from it.

Routing without the memory cache reads the abilities alone. No statement of the
database keeps the two in step: each operation on channels writes the abilities
itself. An ability carries the tag of its channel, by which it can be changed in bulk. -/

structure AbilityRow where
  group : String
  model : String
  channelId : Int
  enabled : Bool
  priority : Int
  weight : Nat
  tag : Option String
deriving DecidableEq

def AbilityRow.key (row : AbilityRow) : String × String × Int := (row.group, row.model, row.channelId)

/-- `nextId` is the counter of the id column. -/
structure Registry where
  channels : Table Channel.id
  abilities : Table AbilityRow.key
  applications : Table Application.id
  nextId : Int

def Registry.empty : Registry := ⟨.empty, .empty, .empty, 1⟩

end TokenFactory.Channels

namespace TokenFactory.Supplier.Channel

open Go

def name (channel : Channel) : String := channel.columns.text "name"

def tag (channel : Channel) : Option String := (channel.columns.get? "tag").bind Json.text?

def withTag (tag : Option String) (channel : Channel) : Channel :=
  { channel with columns := channel.columns.set "tag" (tag.elim .null .string) }

theorem tag_withTag (tag : Option String) (channel : Channel) : (channel.withTag tag).tag = tag := by
  unfold withTag Channel.tag
  rw [Fields.get?_set, if_pos rfl]
  cases tag <;> rfl

end TokenFactory.Supplier.Channel

namespace TokenFactory.Channels

open Data Go Supplier
open Distributor (ChannelStatus)
open Relay (isValidRouteSlug)

section Abilities

variable (channel : Channel)

def places : List (String × String) :=
  (split ',' channel.models).flatMap fun model => (split ',' channel.group).map fun group => (group, model)

def abilityFor (place : String × String) : AbilityRow where
  group := place.1
  model := place.2
  channelId := channel.id
  enabled := channel.status = .enabled
  priority := channel.priority.getD 0
  weight := channel.weight.getD 0
  tag := channel.tag

/-- The loop of `AddAbilities` and of `UpdateAbilities`: a pair whose text was seen is skipped. -/
def newAbilities : List AbilityRow :=
  (distinctBy (fun place => place.1 ++ "|" ++ place.2) (places channel)).map (abilityFor channel)

end Abilities

namespace Registry

variable (registry : Registry)

/-- A row whose key is taken is left out. -/
def insertAbilities (rows : List AbilityRow) : Registry :=
  { registry with abilities := rows.foldl Table.insert registry.abilities }

def addAbilities (channel : Channel) : Registry := registry.insertAbilities (newAbilities channel)

def deleteAbilities (ids : List Int) : Registry :=
  { registry with abilities := registry.abilities.restrict fun row => row.channelId ∉ ids }

def updateAbilities (channel : Channel) : Registry :=
  (registry.deleteAbilities [channel.id]).addAbilities channel

end Registry

def base62Chars : String := "0123456789ABCDEFGHIJKLMNOPQRSTUVWXYZabcdefghijklmnopqrstuvwxyz"

def base62Char (digit : Nat) : Char := base62Chars.toList.getD digit '0'

/-- The loop divides until nothing is left, so it takes at most as many rounds as the number says. -/
def encodeLoop : Nat → Nat → List Char → List Char
  | 0, _, buf => buf
  | fuel + 1, number, buf =>
    if number = 0 then buf else encodeLoop fuel (number / 62) (base62Char (number % 62) :: buf)

def encodeBase62 (number : Int) : String :=
  if number = 0 then "0" else String.ofList (encodeLoop number.toNat number.toNat [])

def defaultRouteSlugFromChannelID (id : Int) : String := "u" ++ encodeBase62 id

/-- What `Create` makes of the fields that are zero and have a default. -/
def withDefaults (channel : Channel) : Channel :=
  { channel with
    status := if channel.status = .unknown then .enabled else channel.status
    group := if channel.group = "" then "default" else channel.group
    priority := some (channel.priority.getD 0)
    weight := some (channel.weight.getD 0)
    priceDiscountPercent := some (channel.priceDiscountPercent.getD 100) }

theorem withSlug_id (slug : String) (channel : Channel) :
    ({ channel with routeSlug := slug } : Channel).id = channel.id := rfl

namespace Registry

variable (collate : String → String) (registry : Registry)

def idFor (channel : Channel) : Int := if channel.id = 0 then registry.nextId else channel.id

def created (channel : Channel) : Channel := { withDefaults channel with id := registry.idFor channel }

def create (channel : Channel) : Except Refusal (Channel × Registry) := do
  let row := registry.created channel
  -- the counter of the column ends with the 64-bit integers
  refuseIf (2 ^ 63 ≤ row.id) "database or disk is full"
  refuseIf ((registry.channels.lookup row.id).isSome) "UNIQUE constraint failed: channels.id"
  return (row, { registry with
    channels := registry.channels.insert row
    nextId := max registry.nextId (row.id + 1) })

/-- The database compares texts by `collate`: by themselves, or without regard to case. -/
def slugTaken (slug : String) (id : Int) : Bool :=
  registry.channels.rows.any fun channel => collate channel.routeSlug = collate slug && channel.id ≠ id

def assignRouteSlugInTx (channelID : Int) (requested : String) : Except Refusal (String × Registry) := do
  if channelID ≤ 0 then return ("", registry)
  let slug := if trimSpace requested = "" then defaultRouteSlugFromChannelID channelID else trimSpace requested
  refuseIf (trimSpace requested ≠ "" ∧ ¬ isValidRouteSlug slug) "route_slug 无效"
  refuseIf (registry.slugTaken collate slug channelID) "route_slug 已被占用"
  return (slug, { registry with
    channels := registry.channels.modify channelID (fun row => { row with routeSlug := slug }) (withSlug_id slug) })

/-- `Channel.Insert`; an error rolls the transaction back. -/
def insert (channel : Channel) : Except Refusal Registry := do
  let (row, registry) ← registry.create channel
  let (_, registry) ← registry.assignRouteSlugInTx collate row.id row.routeSlug
  return registry.addAbilities row

def createAll : List Channel → Registry → Except Refusal (List Channel × Registry)
  | [], registry => return ([], registry)
  | channel :: rest, registry => do
    let (row, registry) ← registry.create channel
    let (rows, registry) ← createAll rest registry
    return (row :: rows, registry)

def assignAll : List Channel → Registry → Except Refusal Registry
  | [], registry => return registry
  | row :: rest, registry => do
    let (_, registry) ← registry.assignRouteSlugInTx collate row.id row.routeSlug
    assignAll rest registry

/-- One chunk: the rows are created together, then each gets its slug, then its abilities. -/
def insertChunk (registry : Registry) (chunk : List Channel) : Except Refusal Registry := do
  let (rows, registry) ← createAll chunk registry
  let registry ← assignAll collate rows registry
  return rows.foldl addAbilities registry

def batchInsertChannels (channels : List Channel) : Except Refusal Registry :=
  (channels.toChunks 50).foldlM (insertChunk collate) registry

end Registry

namespace Registry

variable (services : Services) (registry : Registry)

/-- `Channel.Update`. A channel that is not stored is not updated, but its abilities are written. -/
def update (sent : Channel) : Except Refusal Registry := do
  refuseIf (sent.id = 0) "WHERE conditions required"
  match registry.channels.lookup sent.id with
  | none => return registry.updateAbilities (sent.recounted services { sent with key := "" })
  | some stored =>
    let row := stored.updated (sent.recounted services stored)
    return { registry with channels := registry.channels.save row }.updateAbilities row

def catalogue : Catalogue where
  channels := registry.channels
  abilities := []
  testResults := .empty
  heats := .empty
  applications := registry.applications
  pending := []

/-- The request `UpdateChannel`: the row as the catalogue stores it, and then its abilities. -/
def updateChannel (caller : Caller) (body : Except Refusal PatchChannel) : Except Refusal String × Registry :=
  let outcome := registry.catalogue.updateChannel services caller body
  let stored := { registry with channels := outcome.2.channels }
  match outcome.1, body with
  | .ok answer, .ok patch =>
    match stored.channels.lookup patch.channel.id with
    | some row => (.ok answer, stored.updateAbilities row)
    | none => (.ok answer, stored)
  | answer, _ => (answer, stored)

end Registry

end TokenFactory.Channels
