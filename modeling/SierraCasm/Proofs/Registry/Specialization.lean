import SierraCasm.Proofs.Registry.Specialized

/-! # What types specialize to

`SpecializesTo types long ty` has a rule for each generic type: the arguments that it takes, what
`types` must answer about them, and the concrete type.  These are exactly the specializations that
succeed (`specializeType_eq_ok_iff`). -/

namespace SierraCasm.Concrete

open Sierra

/-! ### Names -/

def GenericType.name : GenericType → String
  | .felt252 => "felt252"
  | .uint bits => uintName bits
  | .rangeCheck => "RangeCheck"
  | .gasBuiltin => "GasBuiltin"
  | .nonZero => "NonZero"
  | .box => "Box"
  | .struct => "Struct"
  | .const => "Const"
  | .uninitialized => "Uninitialized"

/-- The generic types are found by their names, which contain no bracket; the unsigned integers
have one of the five widths. -/
theorem ofName?_eq_some {name : String} {g : GenericType} (h : GenericType.ofName? name = some g) :
    name = g.name ∧ '<' ∉ name.toList ∧ ∀ bits, g = .uint bits → bits ∈ uintWidths := by
  unfold GenericType.ofName? at h
  split at h <;> cases h <;> exact ⟨by decide +kernel, by decide, by simp [uintWidths]⟩

theorem ofName?_uintName {bits : Nat} (h : bits ∈ uintWidths) :
    GenericType.ofName? (uintName bits) = some (.uint bits) := by
  revert bits
  decide +kernel

/-! ### Arguments -/

section arguments

variable {types : TypeLookup} {long : LongId} {id : Ident} {ty : ConcreteType}

theorem memberArg_eq_ok_iff {arg : GenericArg × Nat} :
    memberArg types long arg = .ok (id, ty) ↔
      arg.1 = .type id ∧ types id = some ty ∧ ty.info.storable = true := by
  unfold memberArg
  rw [bind_eq_ok]
  constructor
  · rintro ⟨⟨id', ty'⟩, harg, h⟩
    obtain ⟨hid, hty⟩ := typeArg_eq_ok_iff.mp harg
    obtain ⟨hstorable, ⟨⟩⟩ := ite_reject_eq_ok_iff.mp h
    exact ⟨hid, hty, hstorable⟩
  · rintro ⟨hid, hty, hstorable⟩
    exact ⟨(id, ty), typeArg_eq_ok_iff.mpr ⟨hid, hty⟩, ite_reject_eq_ok_iff.mpr ⟨hstorable, rfl⟩⟩

end arguments

/-! ### Members -/

section members

variable {types : TypeLookup} {long : LongId}

theorem mapM_memberArg_eq_ok {args : List GenericArg} {k : Nat}
    {members : List (Ident × ConcreteType)}
    (h : (args.zipIdx k).mapM (memberArg types long) = .ok members) :
    args = members.map (fun m => .type m.1) ∧
      ∀ m ∈ members, types m.1 = some m.2 ∧ m.2.info.storable = true := by
  induction args generalizing k members with
  | nil =>
    rw [List.zipIdx_nil, List.mapM_nil] at h
    cases h
    simp
  | cons arg args ih =>
    rw [List.zipIdx_cons, List.mapM_cons] at h
    obtain ⟨⟨id, ty⟩, hmember, h⟩ := bind_eq_ok.mp h
    obtain ⟨rest, hrest, h⟩ := bind_eq_ok.mp h
    cases h
    obtain ⟨harg, hty⟩ := memberArg_eq_ok_iff.mp hmember
    obtain ⟨hargs, hall⟩ := ih hrest
    refine ⟨by rw [List.map_cons, ← hargs, ← harg], ?_⟩
    intro m hm
    rcases List.mem_cons.mp hm with rfl | hm
    · exact hty
    · exact hall m hm

theorem mapM_memberArg_of_members {members : List (Ident × ConcreteType)} {k : Nat}
    (h : ∀ m ∈ members, types m.1 = some m.2 ∧ m.2.info.storable = true) :
    ((members.map fun m => GenericArg.type m.1).zipIdx k).mapM (memberArg types long) =
      .ok members := by
  induction members generalizing k with
  | nil => rfl
  | cons m members ih =>
    have hmember : memberArg types long (.type m.1, k) = .ok m :=
      memberArg_eq_ok_iff.mpr ⟨rfl, h m List.mem_cons_self⟩
    rw [List.map_cons, List.zipIdx_cons, List.mapM_cons, hmember,
      ih fun m' hm' => h m' (List.mem_cons_of_mem m hm')]
    rfl

end members

/-! ### One type -/

section specialization

variable {types : TypeLookup} {long : LongId} {ty : ConcreteType}

/-- The constants of a type, by its shape. -/
def Shape.hasConstant : Shape → Int → Bool
  | .felt252, v => Felt.inRange v
  | .uint bits, v => fitsBits bits v
  | _, _ => false

theorem checkConstant_eq_ok_iff {arg : GenericArg} {v : Int} :
    checkConstant long ty arg = .ok v ↔ arg = .value v ∧ ty.shape.hasConstant v = true := by
  cases hshape : ty.shape with
  | felt252 | uint =>
    cases arg with
    | value w =>
      simp only [checkConstant, hshape, ite_reject_eq_ok_iff, Except.ok.injEq,
        GenericArg.value.injEq, Shape.hasConstant]
      exact and_comm.trans (and_congr_right fun heq => by rw [heq])
    | type | userType | libfunc | userFunc | blank => simp [checkConstant, hshape, reject]
  | rangeCheck | gasBuiltin | nonZero | box | struct | const | uninitialized =>
    simp [checkConstant, hshape, Shape.hasConstant, reject]

/-- The long ids that specialize, each with its concrete type. -/
inductive SpecializesTo (types : TypeLookup) : LongId → ConcreteType → Prop
  | felt252 : SpecializesTo types ⟨"felt252", []⟩ ⟨.felt252, .plain ⟨"felt252", []⟩⟩
  | uint {bits : Nat} : bits ∈ uintWidths →
      SpecializesTo types ⟨uintName bits, []⟩ ⟨.uint bits, .plain ⟨uintName bits, []⟩⟩
  | rangeCheck :
      SpecializesTo types ⟨"RangeCheck", []⟩ ⟨.rangeCheck, .linear ⟨"RangeCheck", []⟩⟩
  | gasBuiltin :
      SpecializesTo types ⟨"GasBuiltin", []⟩ ⟨.gasBuiltin, .linear ⟨"GasBuiltin", []⟩⟩
  | nonZero {id : Ident} {inner : ConcreteType} : types id = some inner →
      inner.info.storable = true →
      SpecializesTo types ⟨"NonZero", [.type id]⟩
        ⟨.nonZero id, { inner.info with longId := ⟨"NonZero", [.type id]⟩ }⟩
  | box {id : Ident} {inner : ConcreteType} : types id = some inner →
      inner.info.storable = true →
      SpecializesTo types ⟨"Box", [.type id]⟩
        ⟨.box id, { longId := ⟨"Box", [.type id]⟩, storable := true
                    droppable := inner.info.droppable
                    duplicatable := inner.info.duplicatable, size := 1 }⟩
  | struct {user : Ident} {members : List (Ident × ConcreteType)} :
      (∀ m ∈ members, types m.1 = some m.2 ∧ m.2.info.storable = true) →
      SpecializesTo types ⟨"Struct", .userType user :: members.map fun m => .type m.1⟩
        ⟨.struct user (members.map (·.1)),
          .ofMembers ⟨"Struct", .userType user :: members.map fun m => .type m.1⟩
            (members.map (·.2.info))⟩
  | const {id : Ident} {v : Int} {inner : ConcreteType} : types id = some inner →
      inner.shape.hasConstant v = true →
      SpecializesTo types ⟨"Const", [.type id, .value v]⟩
        ⟨.const id v, { longId := ⟨"Const", [.type id, .value v]⟩, zeroSized := true }⟩
  | uninitialized {id : Ident} {inner : ConcreteType} : types id = some inner →
      SpecializesTo types ⟨"Uninitialized", [.type id]⟩
        ⟨.uninitialized id, { longId := ⟨"Uninitialized", [.type id]⟩, droppable := true
                              size := inner.info.size }⟩

theorem specializesTo_leaf {shape : Shape} {info : TypeInfo}
    (h : specializeLeaf shape info = .ok ty) : info.longId.args = [] ∧ ty = ⟨shape, info⟩ := by
  obtain ⟨⟨⟩, hargs, h⟩ := bind_eq_ok.mp h
  cases h
  exact ⟨checkNoArgs_eq_ok_iff.mp hargs, rfl⟩

theorem specializesTo_nonZero (hname : long.generic = "NonZero")
    (h : specializeNonZero types long = .ok ty) : SpecializesTo types long ty := by
  obtain ⟨generic, args⟩ := long
  obtain ⟨⟨id, inner⟩, harg, h⟩ := bind_eq_ok.mp h
  obtain ⟨hargs, hinner⟩ := singleTypeArg_eq_ok_iff.mp harg
  obtain ⟨hstorable, ⟨⟩⟩ := ite_reject_eq_ok_iff.mp h
  cases hname
  cases hargs
  exact .nonZero hinner hstorable

theorem specializesTo_box (hname : long.generic = "Box")
    (h : specializeBox types long = .ok ty) : SpecializesTo types long ty := by
  obtain ⟨generic, args⟩ := long
  obtain ⟨⟨id, inner⟩, harg, h⟩ := bind_eq_ok.mp h
  obtain ⟨hargs, hinner⟩ := singleTypeArg_eq_ok_iff.mp harg
  obtain ⟨hstorable, ⟨⟩⟩ := ite_reject_eq_ok_iff.mp h
  cases hname
  cases hargs
  exact .box hinner hstorable

theorem specializesTo_struct (hname : long.generic = "Struct")
    (h : specializeStruct types long = .ok ty) : SpecializesTo types long ty := by
  obtain ⟨generic, args⟩ := long
  unfold specializeStruct at h
  split at h
  · rename_i user rest hargs
    obtain ⟨members, hmembers, h⟩ := bind_eq_ok.mp h
    obtain ⟨hrest, hall⟩ := mapM_memberArg_eq_ok hmembers
    cases h
    cases hname
    cases hargs
    cases hrest
    exact .struct hall
  · cases h

theorem specializesTo_const (hname : long.generic = "Const")
    (h : specializeConst types long = .ok ty) : SpecializesTo types long ty := by
  obtain ⟨generic, args⟩ := long
  unfold specializeConst at h
  split at h
  · rename_i typeArgument valueArgument hargs
    obtain ⟨⟨id, inner⟩, harg, h⟩ := bind_eq_ok.mp h
    dsimp only at h
    split at h
    · obtain ⟨v, hv, h⟩ := bind_eq_ok.mp h
      cases h
      cases hname
      cases hargs
      obtain ⟨rfl, hinner⟩ := typeArg_eq_ok_iff.mp harg
      obtain ⟨rfl, hconstant⟩ := checkConstant_eq_ok_iff.mp hv
      exact .const hinner hconstant
    · cases h
  · cases h

theorem specializesTo_uninitialized (hname : long.generic = "Uninitialized")
    (h : specializeUninitialized types long = .ok ty) : SpecializesTo types long ty := by
  obtain ⟨generic, args⟩ := long
  obtain ⟨⟨id, inner⟩, harg, h⟩ := bind_eq_ok.mp h
  obtain ⟨hargs, hinner⟩ := singleTypeArg_eq_ok_iff.mp harg
  cases h
  cases hname
  cases hargs
  exact .uninitialized hinner

theorem SpecializesTo.of_specializeType_eq (h : specializeType types long = .ok ty) :
    SpecializesTo types long ty := by
  unfold specializeType at h
  cases hg : GenericType.ofName? long.generic with
  | none =>
    rw [hg] at h
    cases h
  | some g =>
    obtain ⟨hname, -, hbits⟩ := ofName?_eq_some hg
    rw [hg] at h
    cases g with
    | felt252 | rangeCheck | gasBuiltin =>
      obtain ⟨generic, args⟩ := long
      obtain ⟨hargs, rfl⟩ := specializesTo_leaf h
      cases hname
      cases hargs
      constructor
    | uint bits =>
      obtain ⟨generic, args⟩ := long
      obtain ⟨hargs, rfl⟩ := specializesTo_leaf h
      cases hname
      cases hargs
      exact .uint (hbits bits rfl)
    | nonZero => exact specializesTo_nonZero hname h
    | box => exact specializesTo_box hname h
    | struct => exact specializesTo_struct hname h
    | const => exact specializesTo_const hname h
    | uninitialized => exact specializesTo_uninitialized hname h

theorem SpecializesTo.specializeType_eq (h : SpecializesTo types long ty) :
    specializeType types long = .ok ty := by
  cases h with
  | felt252 | rangeCheck | gasBuiltin => rfl
  | uint hbits =>
    simp only [specializeType, ofName?_uintName hbits]
    rfl
  | nonZero hinner hstorable =>
    show specializeNonZero types _ = _
    rw [specializeNonZero, singleTypeArg_eq_ok_iff.mpr ⟨rfl, hinner⟩]
    exact ite_reject_eq_ok_iff.mpr ⟨hstorable, rfl⟩
  | box hinner hstorable =>
    show specializeBox types _ = _
    rw [specializeBox, singleTypeArg_eq_ok_iff.mpr ⟨rfl, hinner⟩]
    exact ite_reject_eq_ok_iff.mpr ⟨hstorable, rfl⟩
  | @struct user members hmembers =>
    show specializeStruct types ⟨"Struct", .userType user :: members.map fun m => .type m.1⟩ = _
    simp only [specializeStruct]
    rw [mapM_memberArg_of_members hmembers]
    rfl
  | @const id v inner hinner hconstant =>
    have harg : typeArg types ⟨"Const", [.type id, .value v]⟩ 0 (.type id) = .ok (id, inner) :=
      typeArg_eq_ok_iff.mpr ⟨rfl, hinner⟩
    have hvalue : checkConstant ⟨"Const", [.type id, .value v]⟩ inner (.value v) = .ok v :=
      checkConstant_eq_ok_iff.mpr ⟨rfl, hconstant⟩
    show specializeConst types ⟨"Const", [.type id, .value v]⟩ = _
    simp [specializeConst, harg, hvalue, bind, Except.bind, GenericArg.kind, pure, Except.pure]
  | uninitialized hinner =>
    show specializeUninitialized types _ = _
    rw [specializeUninitialized, singleTypeArg_eq_ok_iff.mpr ⟨rfl, hinner⟩]
    rfl

theorem specializeType_eq_ok_iff :
    specializeType types long = .ok ty ↔ SpecializesTo types long ty :=
  ⟨.of_specializeType_eq, SpecializesTo.specializeType_eq⟩

end specialization

end SierraCasm.Concrete
