/-
This file models the fingerprint of a container's bootstrap configuration: the
digest of its image, environment, command, labels, restart policy and mounts as an
inspection reports them. The environment and the mounts are sorted before they are
digested, so their order does not matter; everything else does, when the digest is
injective on canonical texts.
-/

import Mathlib.Data.List.Perm.Basic
import Mathlib.Data.List.Sort
import GuardedAgentRunner.Scope

namespace GuardedAgentRunner

namespace Host

structure DockerMount where
  type : String
  source : String
  destination : String
  rw : Bool
deriving DecidableEq, Repr

/-- A map from names to texts, as the list of its entries in the order of their names. -/
structure Labels where
  entries : List (String × String)
  ordered : entries.Pairwise fun first second => first.1 < second.1

/-- What `bootstrapFingerprint` uses of a `dockerInspection`. -/
structure DockerInspection where
  image : String
  configImage : String
  env : Slice String
  cmd : Slice String
  entrypoint : Slice String
  labels : Option Labels
  restartPolicy : String
  mounts : Slice DockerMount

/-- `sort.Slice` by the destination, which leaves the order of equal destinations open. -/
structure MountSort where
  sort : List DockerMount → List DockerMount
  perm : ∀ mounts, (sort mounts).Perm mounts
  ordered : ∀ mounts, (sort mounts).Pairwise fun first second =>
    first.destination ≤ second.destination

def DockerMount.toJson (mount : DockerMount) : Json :=
  .object [("Type", .string mount.type), ("Source", .string mount.source),
    ("Destination", .string mount.destination), ("RW", .bool mount.rw)]

def labelsJson : Option Labels → Json
  | none => .null
  | some labels => .object (labels.entries.map fun entry => (entry.1, .string entry.2))

/-- The sorted copy of the mounts, absent when there is nothing to copy. -/
def MountSort.sortedMounts (order : MountSort) (mounts : Slice DockerMount) : Slice DockerMount :=
  match mounts.items with
  | [] => .absent
  | items => .of (order.sort items)

/-- The record that is digested, as it is marshalled. -/
def DockerInspection.payload (order : MountSort) (inspection : DockerInspection) :
    List (String × Json) :=
  [("image_id", .string inspection.image),
    ("image_ref", .string inspection.configImage),
    ("environment", (sortedCopy inspection.env).toJson .string),
    ("command", inspection.cmd.toJson .string),
    ("entrypoint", inspection.entrypoint.toJson .string),
    ("labels", labelsJson inspection.labels),
    ("restart_policy", .string inspection.restartPolicy),
    ("mounts", (order.sortedMounts inspection.mounts).toJson DockerMount.toJson)]

/-- The digest of `bootstrapFingerprint`. -/
def bootstrapFingerprint (codec : Codec) (order : MountSort) (inspection : DockerInspection) :
    Except Failure String :=
  codec.digest (.object (inspection.payload order))

/-! ### What the fingerprint determines -/

/-- The inspections report the same bootstrap configuration. -/
structure SameBootstrap (first second : DockerInspection) : Prop where
  image : first.image = second.image
  configImage : first.configImage = second.configImage
  env : first.env.items.Perm second.env.items
  cmd : first.cmd = second.cmd
  entrypoint : first.entrypoint = second.entrypoint
  labels : first.labels = second.labels
  restartPolicy : first.restartPolicy = second.restartPolicy
  mounts : first.mounts.items.Perm second.mounts.items

theorem normalize_mount_injective :
    Function.Injective fun mount : DockerMount => mount.toJson.normalize := by
  intro first second same
  have names : ["Type", "Source", "Destination", "RW"].Nodup := by decide
  have access := Json.normalize_eq_of_mem same names (.tail _ (.tail _ (.tail _ (.head _))))
      (.tail _ (.tail _ (.tail _ (.head _))))
  rw [Json.normalize, Json.normalize] at access
  have type : first.type = second.type :=
    Json.string_eq_of_mem same names (.head _) (.head _)
  have source : first.source = second.source :=
    Json.string_eq_of_mem same names (.tail _ (.head _)) (.tail _ (.head _))
  have destination : first.destination = second.destination :=
    Json.string_eq_of_mem same names (.tail _ (.tail _ (.head _))) (.tail _ (.tail _ (.head _)))
  cases first
  cases second
  simp_all

theorem normalize_labels_injective :
    Function.Injective fun labels => (labelsJson labels).normalize := by
  intro first second same
  dsimp only at same
  match first, second with
  | none, none => rfl
  | none, some labels => simp [labelsJson, Json.normalize] at same
  | some labels, none => simp [labelsJson, Json.normalize] at same
  | some ⟨entries, ordered⟩, some ⟨others, otherOrdered⟩ =>
    have permuted := Json.perm_of_normalize_object same
    rw [List.map_map, List.map_map] at permuted
    have injective : Function.Injective fun entry : String × String =>
        (entry.1, (Json.string entry.2).normalize) := by
      intro entry other equal
      obtain ⟨names, values⟩ := Prod.mk.inj equal
      exact Prod.ext names (Json.normalize_string_injective values)
    have equal : entries = others := by
      refine List.Perm.eq_of_pairwise ?_ ordered otherOrdered
        ((List.map_perm_map_iff injective).mp permuted)
      intro entry other _ _ before after
      exact absurd before after.asymm
    subst equal
    rfl

theorem MountSort.perm_sortedMounts (order : MountSort) (mounts : Slice DockerMount) :
    (order.sortedMounts mounts).items.Perm mounts.items := by
  unfold sortedMounts
  cases mounts.items with
  | nil => exact .nil
  | cons mount items => exact order.perm _

/-- Permutations with distinct destinations have the same sorted copy. -/
theorem MountSort.sortedMounts_eq (order : MountSort) {first second : Slice DockerMount}
    (distinct : (second.items.map DockerMount.destination).Nodup)
    (permuted : first.items.Perm second.items) :
    order.sortedMounts first = order.sortedMounts second := by
  have sorted : order.sort first.items = order.sort second.items := by
    refine List.Perm.eq_of_pairwise ?_ (order.ordered _) (order.ordered _)
      ((order.perm _).trans (permuted.trans (order.perm _).symm))
    intro mount other listed otherListed before after
    exact List.inj_on_of_nodup_map distinct (permuted.subset ((order.perm _).subset listed))
      ((order.perm _).subset otherListed) (le_antisymm before after)
  unfold sortedMounts
  generalize first.items = items at *
  generalize second.items = others at *
  match items, others with
  | [], [] => rfl
  | [], other :: others => exact absurd permuted.length_eq (by simp)
  | item :: items, [] => exact absurd permuted.length_eq (by simp)
  | item :: items, other :: others => exact congrArg Slice.of sorted

theorem sameBootstrap_of_normalize {order : MountSort} {first second : DockerInspection}
    (same : (Json.object (first.payload order)).normalize =
      (Json.object (second.payload order)).normalize) : SameBootstrap first second := by
  have names : ((second.payload order).map Prod.fst).Nodup := by
    show ["image_id", "image_ref", "environment", "command", "entrypoint", "labels",
      "restart_policy", "mounts"].Nodup
    decide
  have field : ∀ (index : Nat) {name : String} {value other : Json},
      (first.payload order)[index]? = some (name, value) →
      (second.payload order)[index]? = some (name, other) → value.normalize = other.normalize :=
    fun index name value other present otherPresent => Json.normalize_eq_of_mem same names
      (List.mem_of_getElem? present) (List.mem_of_getElem? otherPresent)
  have texts := Json.normalize_slice_injective Json.normalize_string_injective
  have mounts := Json.normalize_slice_injective normalize_mount_injective (field 7 rfl rfl)
  exact {
    image := Json.normalize_string_injective (field 0 rfl rfl)
    configImage := Json.normalize_string_injective (field 1 rfl rfl)
    env := perm_of_sortedCopy (texts (field 2 rfl rfl))
    cmd := texts (field 3 rfl rfl)
    entrypoint := texts (field 4 rfl rfl)
    labels := normalize_labels_injective (field 5 rfl rfl)
    restartPolicy := Json.normalize_string_injective (field 6 rfl rfl)
    mounts := (order.perm_sortedMounts _).symm.trans (mounts ▸ order.perm_sortedMounts _) }

/-- Inspections with distinct mount destinations have the same fingerprint exactly when they
report the same bootstrap configuration, the environments and the mounts in any order. -/
theorem bootstrapFingerprint_eq_iff (codec : Codec) (canonical : codec.Canonical)
    (order : MountSort) (first second : DockerInspection)
    (distinct : (second.mounts.items.map DockerMount.destination).Nodup) :
    bootstrapFingerprint codec order first = bootstrapFingerprint codec order second ↔
      SameBootstrap first second := by
  obtain ⟨hash, injective, hashes⟩ := canonical
  unfold bootstrapFingerprint
  constructor
  · intro same
    rw [hashes, hashes] at same
    exact sameBootstrap_of_normalize (Json.transform_eq_iff.mp (injective (Except.ok.inj same)))
  · intro same
    have payload : first.payload order = second.payload order := by
      unfold DockerInspection.payload
      rw [same.image, same.configImage, sortedCopy_eq_of_perm same.env, same.cmd, same.entrypoint,
        same.labels, same.restartPolicy, order.sortedMounts_eq distinct same.mounts]
    rw [payload]

/-- An insertion sort. -/
def insertionOrder : MountSort where
  sort mounts := mounts.insertionSort fun first second => first.destination ≤ second.destination
  perm := List.perm_insertionSort _
  ordered mounts := by
    have total : Std.Total fun first second : DockerMount =>
        first.destination ≤ second.destination := ⟨fun first second => le_total _ _⟩
    have trans : IsTrans DockerMount fun first second =>
        first.destination ≤ second.destination := ⟨fun _ _ _ => le_trans⟩
    exact List.pairwise_insertionSort _ _

def sampleMounts : List DockerMount :=
  [⟨"bind", "/srv/data", "/data", true⟩, ⟨"bind", "/srv/gate", "/gate", false⟩]

/-- A container with an environment and mounts in a given order. -/
def sampleInspection (env : List String) (mounts : List DockerMount) : DockerInspection where
  image := "sha256:0a"
  configImage := "paper:1"
  env := .of env
  cmd := .absent
  entrypoint := .of ["/start"]
  labels := none
  restartPolicy := "no"
  mounts := .of mounts

theorem reordered_bootstrapFingerprint :
    bootstrapFingerprint textCodec insertionOrder
        (sampleInspection ["EULA=TRUE", "TYPE=PAPER"] sampleMounts) =
      bootstrapFingerprint textCodec insertionOrder
        (sampleInspection ["TYPE=PAPER", "EULA=TRUE"] sampleMounts.reverse) :=
  (bootstrapFingerprint_eq_iff textCodec textCodec_canonical insertionOrder _ _
    (by decide)).mpr ⟨rfl, rfl, by decide, rfl, rfl, rfl, rfl, by decide⟩

end Host

end GuardedAgentRunner
