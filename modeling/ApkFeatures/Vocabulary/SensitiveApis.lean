/-
**Names of sensitive methods.**

The methods of the sensitive classes of the platform. Their order is the order of the columns of
every table of the family.
-/
import ApkFeatures.Vocabulary.Basic

namespace ApkFeatures.Vocabulary

/-- The methods of the sensitive classes of the platform. -/
def sensitiveApis : Vocabulary where
  keys := [
    "getInputStream", "canChangeDtmfToneLength", "clearSignalStrengthUpdateRequest",
    "createForPhoneAccountHandle", "createForSubscriptionId",
    "doesSwitchMultiSimConfigTriggerReboot", "switchMultiSimConfig", "getActiveModemCount",
    "getAllCellInfo", "getAllowedNetworkTypesForReason", "getCallComposerStatus", "getCallState",
    "getCallStateForSubscription", "isInCall", "getCardIdForDefaultEuicc", "getCarrierConfig",
    "getCarrierIdFromSimMccMnc", "getSimOperator", "getCarrierRestrictionStatus",
    "getCellLocation", "getDataActivity", "getDataNetworkType", "getDataState", "getDeviceId",
    "getImei", "getMeid", "getDeviceSoftwareVersion", "getEmergencyNumberList",
    "getEquivalentHomePlmns", "getForbiddenPlmns", "getGroupIdLevel", "getIccAuthentication",
    "getLine", "getPhoneNumber", "getManualNetworkSelectionPlmn", "getManufacturerCode",
    "getMaximumCallComposerPictureSize", "getMmsUAProfUrl", "getMmsUserAgent", "getNai",
    "getNetworkCountryIso", "getNetworkOperator", "getNetworkOperatorName",
    "getNetworkSelectionMode", "getNetworkSlicingConfiguration", "getNetworkSpecifier",
    "getNetworkType", "getPhoneAccountHandle", "getPhoneCount", "getPhoneType",
    "getPreferredOpportunisticDataSubscription", "hasCarrierPrivileges", "getPrimaryImei",
    "getServiceState", "getSignalStrength", "getSimCarrierId", "getSimCarrierIdName",
    "getSimCountryIso", "getSimOperatorName", "getSimSerialNumber", "getSimSpecificCarrierId",
    "getSimSpecificCarrierIdName", "getSimState", "getSubscriberId", "getSubscriptionId",
    "getSupportedModemCount", "getSupportedRadioAccessFamily", "hasSystemFeature",
    "getTypeAllocationCode", "getUiccCardsInfo", "getVisualVoicemailPackageName",
    "getVoiceMailAlphaTag", "getVoiceMailNumber", "getVoiceNetworkType", "getVoicemailRingtoneUri",
    "hasIccCard", "iccCloseLogicalChannel", "iccExchangeSimIO", "iccOpenLogicalChannel",
    "iccTransmitApduBasicChannel", "iccTransmitApduLogicalChannel",
    "isConcurrentVoiceAndDataSupported", "isDataCapable", "isDataConnectionAllowed",
    "isDataEnabled", "isDataEnabledForReason", "isDataRoamingEnabled", "isDeviceSmsCapable",
    "isDeviceVoiceCapable", "isEmergencyNumber", "isHearingAidCompatibilitySupported",
    "isManualNetworkSelectionAllowed", "isModemEnabledForSlot", "isMultiSimSupported",
    "isNetworkRoaming", "isPremiumCapabilityAvailableForPurchase",
    "isRadioInterfaceCapabilitySupported", "isRttSupported", "isSmsCapable", "isTtyModeSupported",
    "isTtySupported", "isVoiceCapable", "isVoicemailVibrationEnabled", "isWorldPhone", "listen",
    "registerTelephonyCallback", "purchasePremiumCapability", "rebootModem",
    "requestCellInfoUpdate", "requestNetworkScan", "sendDialerSpecialCode",
    "sendEnvelopeWithStatus", "sendUssdRequest", "sendVisualVoicemailSms",
    "setAllowedNetworkTypesForReason", "setCallComposerStatus", "setDataEnabled",
    "setDataEnabledForReason", "setForbiddenPlmns", "setLine", "setCarrierPhoneNumber",
    "setNetworkSelectionModeAutomatic", "setNetworkSelectionModeManual",
    "setOperatorBrandOverride", "setPreferredNetworkTypeToGlobal",
    "setPreferredOpportunisticDataSubscription", "setSignalStrengthUpdateRequest",
    "setVisualVoicemailSmsFilterSettings", "setVoiceMailNumber", "setVoicemailRingtoneUri",
    "setVoicemailVibrationEnabled", "unregisterTelephonyCallback", "updateAvailableNetworks",
    "uploadCallComposerPicture", "createAppSpecificSmsToken",
    "createAppSpecificSmsTokenWithPackageInfo", "divideMessage", "downloadMultimediaMessage",
    "getDefault", "getCarrierConfigValues", "getSystemService", "getDefaultSmsSubscriptionId",
    "getSmsCapacityOnIcc", "getSmsManagerForSubscriptionId", "getSmsMessagesForFinancialApp",
    "getSmscAddress", "injectSmsPdu", "sendDataMessage", "sendMultimediaMessage",
    "sendMultipartTextMessage", "sendTextMessage", "sendTextMessageWithoutPersisting",
    "setSmscAddress", "addGpsStatusListener", "addNmeaListener", "addProximityAlert",
    "addTestProvider", "clearTestProviderEnabled", "clearTestProviderLocation",
    "clearTestProviderStatus", "getAllProviders", "getBestProvider", "getCurrentLocation",
    "getGnssAntennaInfos", "getGnssCapabilities", "getGnssHardwareModelName",
    "getGnssYearOfHardware", "getGpsStatus", "getLastKnownLocation", "getProvider",
    "getProviderProperties", "getProviders", "hasProvider", "isLocationEnabled",
    "isProviderEnabled", "registerAntennaInfoListener", "registerGnssMeasurementsCallback",
    "registerGnssNavigationMessageCallback", "registerGnssStatusCallback",
    "removeGpsStatusListener", "removeNmeaListener", "removeProximityAlert", "removeTestProvider",
    "removeUpdates", "requestFlush", "requestLocationUpdates", "requestSingleUpdate",
    "sendExtraCommand", "setTestProviderEnabled", "setTestProviderLocation",
    "setTestProviderStatus", "unregisterAntennaInfoListener", "unregisterGnssMeasurementsCallback",
    "unregisterGnssNavigationMessageCallback", "unregisterGnssStatusCallback", "abandonAudioFocus",
    "abandonAudioFocusRequest", "addOnActiveSessionsChangedListener",
    "addOnCommunicationDeviceChangedListener", "addOnModeChangedListener",
    "addOnPreferredMixerAttributesChangedListener", "adjustStreamVolume",
    "adjustSuggestedStreamVolume", "adjustVolume", "adjustVolumeGroupVolume",
    "clearCommunicationDevice", "clearPreferredMixerAttributes", "dispatchMediaKeyEvent",
    "generateAudioSessionId", "getActivePlaybackConfigurations",
    "getActiveRecordingConfigurations", "getAllowedCapturePolicy", "getAudioDevicesForAttributes",
    "getAudioHwSyncForSession", "getAvailableCommunicationDevices", "getCommunicationDevice",
    "getDevices", "getDirectPlaybackSupport", "getDirectProfilesForAttributes",
    "getEncodedSurroundMode", "getMicrophones", "getMode", "getParameters",
    "getPlaybackOffloadSupport", "getPreferredMixerAttributes", "getProperty", "getRingerMode",
    "getRouting", "getSpatializer", "getStreamMaxVolume", "getStreamMinVolume", "getStreamVolume",
    "getStreamVolumeDb", "getSupportedDeviceTypes", "getSupportedMixerAttributes",
    "getVibrateSetting", "getVolumeGroupIdForAttributes", "isBluetoothA",
    "isBluetoothScoAvailableOffCall", "isBluetoothScoOn", "isCallScreeningModeSupported",
    "isHapticPlaybackSupported", "isMicrophoneMute", "isMusicActive",
    "isOffloadedPlaybackSupported", "isRampingRingerEnabled", "isSpeakerphoneOn", "isStreamMute",
    "isSurroundFormatEnabled", "isVolumeFixed", "isVolumeGroupMuted", "isWiredHeadsetOn",
    "loadSoundEffects", "playSoundEffect", "registerAudioDeviceCallback",
    "registerAudioPlaybackCallback", "registerAudioRecordingCallback",
    "registerMediaButtonEventReceiver", "registerRemoteControlClient", "registerRemoteController",
    "removeOnCommunicationDeviceChangedListener", "removeOnModeChangedListener",
    "removeOnPreferredMixerAttributesChangedListener", "removeOnActiveSessionsChangedListener",
    "requestAudioFocus", "selectRoute", "setAllowedCapturePolicy", "setBluetoothA",
    "setBluetoothScoOn", "setCommunicationDevice", "setEncodedSurroundMode",
    "setMediaButtonReceiver", "setMicrophoneMute", "setMode", "setParameters",
    "setPreferredMixerAttributes", "setRingerMode", "setRouting", "setSpeakerphoneOn",
    "setStreamMute", "setStreamSolo", "setStreamVolume", "setSurroundFormatEnabled",
    "setVibrateSetting", "setWiredHeadsetOn", "shouldVibrate", "startBluetoothSco",
    "stopBluetoothSco", "unloadSoundEffects", "unregisterAudioDeviceCallback",
    "unregisterAudioPlaybackCallback", "unregisterAudioRecordingCallback",
    "unregisterMediaButtonEventReceiver", "unregisterRemoteControlClient",
    "unregisterRemoteController", "disconnect", "getErrorStream", "getFollowRedirects",
    "getHeaderField", "getHeaderFieldDate", "getHeaderFieldKey", "getInstanceFollowRedirects",
    "getPermission", "getRequestMethod", "getResponseCode", "getResponseMessage",
    "setChunkedStreamingMode", "setFixedLengthStreamingMode", "setFollowRedirects",
    "setInstanceFollowRedirects", "setRequestMethod", "usingProxy",
    "addDefaultNetworkActiveListener", "bindProcessToNetwork", "bindSocket",
    "createSocketKeepalive", "getActiveNetwork", "getActiveNetworkInfo", "getAllNetworkInfo",
    "getAllNetworks", "getBackgroundDataSetting", "getBoundNetworkForProcess",
    "getConnectionOwnerUid", "getDefaultProxy", "getLinkProperties", "getMultipathPreference",
    "getNetworkCapabilities", "getNetworkInfo", "getNetworkPreference",
    "getNetworkWatchlistConfigHash", "getProcessDefaultNetwork", "getRestrictBackgroundStatus",
    "isActiveNetworkMetered", "isDefaultNetworkActive", "isNetworkTypeValid", "openConnection",
    "registerBestMatchingNetworkCallback", "registerDefaultNetworkCallback",
    "registerNetworkCallback", "releaseNetworkRequest", "removeDefaultNetworkActiveListener",
    "reportBadNetwork", "reportNetworkConnectivity", "requestBandwidthUpdate", "requestNetwork",
    "reserveNetwork", "setIncludeOtherUidNetworks", "setNetworkPreference",
    "setProcessDefaultNetwork", "unregisterNetworkCallback", "abortBroadcast",
    "clearAbortBroadcast", "getAbortBroadcast", "getDebugUnregister", "getResultCode",
    "getResultData", "getResultExtras", "getSentFromPackage", "getSentFromUid", "goAsync",
    "isInitialStickyBroadcast", "isOrderedBroadcast", "onReceive", "peekService",
    "registerReceiver", "sendOrderedBroadcast", "setDebugUnregister", "setOrderedHint",
    "setResult", "setResultCode", "setResultData", "setResultExtras", "doFinal", "getAlgorithm",
    "getBlockSize", "getExemptionMechanism", "getIV", "getInstance", "getMaxAllowedKeyLength",
    "getMaxAllowedParameterSpec", "getOutputSize", "init", "unwrap", "update", "updateAAD", "wrap",
    "getAnnotation", "getAnnotations", "getAnnotationsByType", "getDeclaredAnnotation",
    "getDeclaredAnnotations", "getDeclaredAnnotationsByType", "isAccessible",
    "isAnnotationPresent", "setAccessible", "addPackageToPreferred", "resolveActivity",
    "queryIntentActivities", "addPermission", "addPermissionAsync", "addPreferredActivity",
    "addWhitelistedRestrictedPermission", "canPackageQuery", "canRequestPackageInstalls",
    "canonicalToCurrentPackageNames", "checkPermission", "checkSignatures",
    "clearInstantAppCookie", "clearPackagePreferredActivities", "currentToCanonicalPackageNames",
    "extendVerificationTimeout", "getActivityBanner", "getActivityIcon", "getActivityInfo",
    "getActivityLogo", "getAllPermissionGroups", "getApplicationBanner",
    "getApplicationEnabledSetting", "getApplicationIcon", "getApplicationInfo",
    "getApplicationLabel", "getApplicationLogo", "getArchivedPackage",
    "getBackgroundPermissionOptionLabel", "getChangedPackages", "getComponentEnabledSetting",
    "getDefaultActivityIcon", "getDrawable", "getGroupOfPlatformPermission",
    "getInstallSourceInfo", "getInstalledApplications", "getInstalledModules",
    "getInstalledPackages", "getInstallerPackageName", "getInstantAppCookie",
    "getInstantAppCookieMaxBytes", "getInstrumentationInfo", "getLaunchIntentForPackage",
    "getLaunchIntentSenderForPackage", "getLeanbackLaunchIntentForPackage", "getMimeGroup",
    "getModuleInfo", "getNameForUid", "getPackageArchiveInfo", "getPackageGids", "getPackageInfo",
    "getPackageInstaller", "getPackageUid", "getPackagesForUid", "getPackagesHoldingPermissions",
    "getPermissionGroupInfo", "getPermissionInfo", "getPlatformPermissionsForGroup",
    "getPreferredActivities", "getPreferredPackages", "getProviderInfo", "getReceiverInfo",
    "getResourcesForActivity", "getResourcesForApplication", "getServiceInfo",
    "getSharedLibraries", "getSuspendedPackageAppExtras", "getSyntheticAppDetailsActivityEnabled",
    "getSystemAvailableFeatures", "getSystemSharedLibraryNames", "getTargetSdkVersion", "getText",
    "getUserBadgedDrawableForDensity", "getUserBadgedIcon", "getUserBadgedLabel",
    "getVerifiedSigningInfo", "getWhitelistedRestrictedPermissions", "getXml",
    "hasSigningCertificate", "isAppArchivable", "isAutoRevokeWhitelisted",
    "isDefaultApplicationIcon", "isDeviceUpgrading", "isInstantApp", "isPackageStopped",
    "isPackageSuspended", "isPermissionRevokedByPolicy", "isSafeMode", "parseAndroidManifest",
    "queryActivityProperty", "queryApplicationProperty", "queryBroadcastReceivers",
    "queryContentProviders", "queryInstrumentation", "queryIntentActivityOptions",
    "queryIntentContentProviders", "queryIntentServices", "queryPermissionsByGroup",
    "queryProviderProperty", "queryReceiverProperty", "queryServiceProperty",
    "relinquishUpdateOwnership", "removePackageFromPreferred", "removePermission",
    "removeWhitelistedRestrictedPermission", "requestChecksums", "resolveContentProvider",
    "resolveService", "setApplicationCategoryHint", "setApplicationEnabledSetting",
    "setAutoRevokeWhitelisted", "setComponentEnabledSetting", "setComponentEnabledSettings",
    "setInstallerPackageName", "setMimeGroup", "updateInstantAppCookie", "verifyPendingInstall"]

end ApkFeatures.Vocabulary
