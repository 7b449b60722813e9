import FleetPlan.Cluster.Fields
import FleetPlan.Main
import FleetPlan.Proofs.AgentFlags
import FleetPlan.Proofs.AuthorizedRole
import FleetPlan.Proofs.CapacityBounds
import FleetPlan.Proofs.ClusterResolution
import FleetPlan.Proofs.CommandWords
import FleetPlan.Proofs.CreationOrder
import FleetPlan.Proofs.EmptyPrices
import FleetPlan.Proofs.EncodedScripts
import FleetPlan.Proofs.ExtendedOptions
import FleetPlan.Proofs.FleetAgreement
import FleetPlan.Proofs.GroupInventory
import FleetPlan.Proofs.GroupNames
import FleetPlan.Proofs.IndependentGroups
import FleetPlan.Proofs.KeptSettings
import FleetPlan.Proofs.ListedGroups
import FleetPlan.Proofs.NetworkNotation
import FleetPlan.Proofs.NormalOptions
import FleetPlan.Proofs.OptionDeferral
import FleetPlan.Proofs.PlacedGroups
import FleetPlan.Proofs.RegisteredTags
import FleetPlan.Proofs.RejectedGroups
import FleetPlan.Proofs.ReloadedTags
import FleetPlan.Proofs.StableChoice
import FleetPlan.Proofs.StagedScripts
import FleetPlan.Proofs.StrayKeys
import FleetPlan.Proofs.SubnetPrecedence
import FleetPlan.Proofs.VolumeAmounts
import FleetPlan.Proofs.WorkerPlacement
import FleetPlan.Request.Written
