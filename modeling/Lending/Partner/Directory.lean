import Lending.Partner.Basic

/-!
# The directory of partners

Partners are registered once and found by what they finance. The directory keeps them as they came;
every list that it gives out is in ascending order of the identifiers, so it does not show in which
order they were registered.
-/

namespace Lending

structure Directory where
  partners : List Partner

namespace Directory

def empty : Directory := ⟨[]⟩

instance : Inhabited Directory := ⟨empty⟩

def size (d : Directory) : Nat := d.partners.length

def find? (d : Directory) (id : PartnerId) : Option Partner := d.partners.find? fun p => p.id == id

/-- The partners with a property, in ascending order of their identifiers. -/
def select (d : Directory) (wanted : Partner → Bool) : List Partner :=
  (d.partners.filter wanted).mergeSort fun p q => p.id ≤ q.id

def all (d : Directory) : List Partner := d.select fun _ => true

def ids (d : Directory) : List PartnerId := d.all.map Partner.id

/-- Registers a partner with a complete description. The answer is whether it is new: a partner whose
identifier is taken is not registered. -/
def register (d : Directory) (p : Partner) : Except PartnerFault Bool × Directory :=
  if p.errors.isEmpty then
    if (d.find? p.id).isSome then (.ok false, d) else (.ok true, ⟨d.partners ++ [p]⟩)
  else (.error (.invalidDescriptor p.id p.errors), d)

/-- Removes a partner, and tells whether there was one. -/
def unregister (d : Directory) (id : PartnerId) : Bool × Directory :=
  ((d.find? id).isSome, ⟨d.partners.filter fun p => p.id != id⟩)

/-- The partner under an identifier, or a fault that names those there are. -/
def get (d : Directory) (id : PartnerId) : Except PartnerFault Partner :=
  match d.find? id with
  | some p => .ok p
  | none => .error (.notFound id d.ids)

/-! ### By product -/

def offering (d : Directory) (product : Product) : List Partner := d.select fun p => p.offers product

/-- The partners that offer all of the products. -/
def offeringAll (d : Directory) (products : List Product) : List Partner :=
  d.select fun p => products.all p.offers

/-- The partners that offer some of the products. -/
def offeringAny (d : Directory) (products : List Product) : List Partner :=
  d.select fun p => products.any p.offers

/-- The products that anyone offers, in the order of their declaration. -/
def availableProducts (d : Directory) : List Product :=
  Vocabulary.terms.filter fun product => d.partners.any fun p => p.offers product

/-- Whether `p` is to be picked rather than `q`: the lower rate, then the smaller identifier. -/
def cheaper (p q : Partner) : Bool :=
  decide (p.listing.terms.minRate < q.listing.terms.minRate) ||
  (decide (p.listing.terms.minRate ≤ q.listing.terms.minRate) && decide (p.id < q.id))

def cheapest? : List Partner → Option Partner
  | [] => none
  | p :: rest =>
    match cheapest? rest with
    | some q => some (if cheaper q p then q else p)
    | none => some p

/-- The cheapest partner for a product that meets the criteria. -/
def best? (d : Directory) (product : Product) (criteria : Criteria) : Option Partner :=
  cheapest? ((d.offering product).filter fun p => criteria.accepts p.listing.type p.listing.terms)

/-! ### Counts -/

/-- How many partners there are of each type and for each product; none of a kind is left out. -/
structure Stats where
  total : Nat
  byType : List (PartnerType × Nat)
  byProduct : List (Product × Nat)
deriving DecidableEq

/-- The terms of a vocabulary that have a positive count. -/
def tally {α : Type} [Vocabulary α] (count : α → Nat) : List (α × Nat) :=
  (Vocabulary.terms.map fun term => (term, count term)).filter fun (_, n) => n != 0

def stats (d : Directory) : Stats where
  total := d.size
  byType := tally fun type => d.partners.countP fun p => p.listing.type == type
  byProduct := tally fun product => d.partners.countP fun p => p.offers product

end Directory
end Lending
