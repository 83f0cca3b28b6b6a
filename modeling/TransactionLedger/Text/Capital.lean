/-!
# Capitals for keywords

Keywords are written in capital ASCII letters and are recognised in any case. Besides `a` to `z`,
two characters have a single ASCII letter as their capital: the dotless `ı` and the long `ſ`.
-/

namespace TransactionLedger.Text

/-- The capital of a character, as far as it is an ASCII letter; any other character stays. -/
def capital (c : Char) : Char :=
  if c = 'ı' then 'I' else if c = 'ſ' then 'S' else c.toUpper

def capitals (text : List Char) : List Char :=
  text.map capital

@[simp] theorem capitals_nil : capitals [] = [] := rfl

@[simp] theorem capitals_cons (c : Char) (text : List Char) :
    capitals (c :: text) = capital c :: capitals text := rfl

end TransactionLedger.Text
