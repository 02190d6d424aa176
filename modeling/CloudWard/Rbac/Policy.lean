/-!
# Roles and permissions

`rbac/policy.py`: three roles, eleven permissions, and the table between them.
-/

namespace CloudWard.Rbac

/-- `rbac/policy.py:13`. -/
inductive Role
  | viewer
  | operator
  | admin
deriving DecidableEq, Repr

/-- `rbac/policy.py:19`. -/
inductive Permission
  | platformRead
  | incidentRead
  | auditRead
  | incidentCreate
  | actionApproveStandard
  | actionReject
  | demoTrigger
  | roleManage
  | settingsManage
  | policyManage
  | actionApproveHigherRisk
deriving DecidableEq, Repr

/-- `ROLE_PERMISSIONS`, `rbac/policy.py:33`; an administrator holds every permission. -/
def rolePermissions : Role → Permission → Bool
  | .viewer, p => p ∈ [.platformRead, .incidentRead, .auditRead]
  | .operator, p =>
      p ∈ [.platformRead, .incidentRead, .auditRead, .incidentCreate, .actionApproveStandard,
        .actionReject, .demoTrigger]
  | .admin, _ => true

/-- `has_permission`, `rbac/policy.py:53`. -/
def hasPermission (role : Role) (permission : Permission) : Bool :=
  rolePermissions role permission

/-- The role table is increasing from viewer to operator. -/
theorem hasPermission_operator_of_viewer (p : Permission)
    (h : hasPermission .viewer p) : hasPermission .operator p := by
  cases p <;> simp_all [hasPermission, rolePermissions]

/-- An administrator can do whatever any role can. -/
theorem hasPermission_admin (p : Permission) : hasPermission .admin p := rfl

end CloudWard.Rbac
